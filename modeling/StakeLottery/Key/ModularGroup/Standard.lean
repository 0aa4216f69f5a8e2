import StakeLottery.Key.ModularGroup

/-!
Standard groups of powers whose modulus is not one more than twice a prime, with the orders of their
generators.
-/

namespace StakeLottery.ModularGroup

def ofWords (words : List Nat) : Nat :=
  Bytes.toNat (words.flatMap (Bytes.ofNat 32))

def standard1024 : ModularGroup where
  modulus := ofWords
    [0xb10b8f96a080e01dde92de5eae5d54ec52c99fbcfb06a3c69a6a9dca52d23b61,
      0x6073e28675a23d189838ef1e2ee652c013ecb4aea906112324975c3cd49b83bf,
      0xaccbdd7d90c4bd7098488e9c219a73724effd6fae5644738faa31a4ff55bccc0,
      0xa151af5f0dc8b4bd45bf37df365c1a65e68cfda76d4da708df1fb2bc2e4a4371]
  generator := ofWords
    [0xa4d1cbd5c3fd34126765a442efb99905f8104dd258ac507fd6406cff14266d31,
      0x266fea1e5c41564b777e690f5504f213160217b4b01b886a5e91547f9e2749f4,
      0xd7fbd7d3b9a92ee1909d0d2263f80a76a6a24c087a091f531dbf0a0169b6a28a,
      0xd662a4d18e73afa32d779d5918d08bc8858f4dcef97c2a24855e6eeb22b3b2e5]
  order := some 0xf518aa8781a8df278aba4e7d64b7cb9d49462353

def standard2048 : ModularGroup where
  modulus := ofWords
    [0xad107e1e9123a9d0d660faa79559c51fa20d64e5683b9fd1b54b1597b61d0a75,
      0xe6fa141df95a56dbaf9a3c407ba1df15eb3d688a309c180e1de6b85a1274a0a6,
      0x6d3f8152ad6ac2129037c9edefda4df8d91e8fef55b7394b7ad5b7d0b6c12207,
      0xc9f98d11ed34dbf6c6ba0b2c8bbc27be6a00e0a0b9c49708b3bf8a3170918836,
      0x81286130bc8985db1602e714415d9330278273c7de31efdc7310f7121fd5a074,
      0x15987d9adc0a486dcdf93acc44328387315d75e198c641a480cd86a1b9e587e8,
      0xbe60e69cc928b2b9c52172e413042e9b23f10b0e16e79763c9b53dcf4ba80a29,
      0xe3fb73c16b8e75b97ef363e2ffa31f71cf9de5384e71b81c0ac4dffe0c10e64f]
  generator := ofWords
    [0xac4032ef4f2d9ae39df30b5c8ffdac506cdebe7b89998caf74866a08cfe4ffe3,
      0xa6824a4e10b9a6f0dd921f01a70c4afaab739d7700c29f52c57db17c620a8652,
      0xbe5e9001a8d66ad7c17669101999024af4d027275ac1348bb8a762d0521bc98a,
      0xe247150422ea1ed409939d54da7460cdb5f6c6b250717cbef180eb34118e98d1,
      0x19529a45d6f834566e3025e316a330efbb77a86f0c1ab15b051ae3d428c8f8ac,
      0xb70a8137150b8eeb10e183edd19963ddd9e263e4770589ef6aa21e7f5f2ff381,
      0xb539cce3409d13cd566afbb48d6c019181e1bcfe94b30269edfe72fe9b6aa4bd,
      0x7b5a0f1c71cfff4c19c418e1f6ec017981bc087f2a7065b384b890d3191f2bfa]
  order := some 0x801c0d34c58d93fe997177101f80535a4738cebcbf389a99b36371eb

def standard2048Long : ModularGroup where
  modulus := ofWords
    [0x87a8e61db4b6663cffbbd19c651959998ceef608660dd0f25d2ceed4435e3b00,
      0xe00df8f1d61957d4faf7df4561b2aa3016c3d91134096faa3bf4296d830e9a7c,
      0x209e0c6497517abd5a8a9d306bcf67ed91f9e6725b4758c022e0b1ef4275bf7b,
      0x6c5bfc11d45f9088b941f54eb1e59bb8bc39a0bf12307f5c4fdb70c581b23f76,
      0xb63acae1caa6b7902d52526735488a0ef13c6d9a51bfa4ab3ad8347796524d8e,
      0xf6a167b5a41825d967e144e5140564251ccacb83e6b486f6b3ca3f7971506026,
      0xc0b857f689962856ded4010abd0be621c3a3960a54e710c375f26375d7014103,
      0xa4b54330c198af126116d2276e11715f693877fad7ef09cadb094ae91e1a1597]
  generator := ofWords
    [0x3fb32c9b73134d0b2e77506660edbd484ca7b18f21ef205407f4793a1a0ba125,
      0x10dbc15077be463fff4fed4aac0bb555be3a6c1b0c6b47b1bc3773bf7e8c6f62,
      0x901228f8c28cbb18a55ae31341000a650196f931c77a57f2ddf463e5e9ec144b,
      0x777de62aaab8a8628ac376d282d6ed3864e67982428ebc831d14348f6f2f9193,
      0xb5045af2767164e1dfc967c1fb3f2e55a4bd1bffe83b9c80d052b985d182ea0a,
      0xdb2a3b7313d3fe14c8484b1e052588b9b7d2bbd2df016199ecd06e1557cd0915,
      0xb3353bbb64e0ec377fd028370df92b52c7891428cdc67eb6184b523d1db246c3,
      0x2f63078490f00ef8d647d148d47954515e2327cfef98c582664b4c0f6cc41659]
  order := some 0x8cf83642a709a097b447997640129da299b1a47d1eb3750ba308b0fe64f5fbd3

def standard : List ModularGroup :=
  [standard1024, standard2048, standard2048Long]

end StakeLottery.ModularGroup
