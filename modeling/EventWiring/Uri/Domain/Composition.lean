import EventWiring.Text.Table

/-!
# Composed characters

A letter with marks can be written as one character or as several. `composed` brings a text into
the form with as few characters as possible: marks in the order of their classes, and each joined
with its letter where there is a character for both.
-/

namespace EventWiring.Uri.Domain

/-- The two characters that a character is composed of. -/
def parts : List Text.Block := [
    ⟨0xe0, 0xe5, "61+300 61+301 61+302 61+303 61+308 61+30a"⟩,
    ⟨0xe7, 0xef, "63+327 65+300 65+301 65+302 65+308 69+300 69+301 69+302 69+308"⟩,
    ⟨0xf1, 0xf6, "6e+303 6f+300 6f+301 6f+302 6f+303 6f+308"⟩,
    ⟨0xf9, 0xfd, "75+300 75+301 75+302 75+308 79+301"⟩, ⟨0xff, 0xff, "79+308"⟩,
    ⟨0x101, 0x101, "61+304"⟩, ⟨0x103, 0x103, "61+306"⟩, ⟨0x105, 0x105, "61+328"⟩,
    ⟨0x107, 0x107, "63+301"⟩, ⟨0x109, 0x109, "63+302"⟩, ⟨0x10b, 0x10b, "63+307"⟩,
    ⟨0x10d, 0x10d, "63+30c"⟩, ⟨0x10f, 0x10f, "64+30c"⟩, ⟨0x113, 0x113, "65+304"⟩,
    ⟨0x115, 0x115, "65+306"⟩, ⟨0x117, 0x117, "65+307"⟩, ⟨0x119, 0x119, "65+328"⟩,
    ⟨0x11b, 0x11b, "65+30c"⟩, ⟨0x11d, 0x11d, "67+302"⟩, ⟨0x11f, 0x11f, "67+306"⟩,
    ⟨0x121, 0x121, "67+307"⟩, ⟨0x123, 0x123, "67+327"⟩, ⟨0x125, 0x125, "68+302"⟩,
    ⟨0x129, 0x129, "69+303"⟩, ⟨0x12b, 0x12b, "69+304"⟩, ⟨0x12d, 0x12d, "69+306"⟩,
    ⟨0x12f, 0x12f, "69+328"⟩, ⟨0x135, 0x135, "6a+302"⟩, ⟨0x137, 0x137, "6b+327"⟩,
    ⟨0x13a, 0x13a, "6c+301"⟩, ⟨0x13c, 0x13c, "6c+327"⟩, ⟨0x13e, 0x13e, "6c+30c"⟩,
    ⟨0x144, 0x144, "6e+301"⟩, ⟨0x146, 0x146, "6e+327"⟩, ⟨0x148, 0x148, "6e+30c"⟩,
    ⟨0x14d, 0x14d, "6f+304"⟩, ⟨0x14f, 0x14f, "6f+306"⟩, ⟨0x151, 0x151, "6f+30b"⟩,
    ⟨0x155, 0x155, "72+301"⟩, ⟨0x157, 0x157, "72+327"⟩, ⟨0x159, 0x159, "72+30c"⟩,
    ⟨0x15b, 0x15b, "73+301"⟩, ⟨0x15d, 0x15d, "73+302"⟩, ⟨0x15f, 0x15f, "73+327"⟩,
    ⟨0x161, 0x161, "73+30c"⟩, ⟨0x163, 0x163, "74+327"⟩, ⟨0x165, 0x165, "74+30c"⟩,
    ⟨0x169, 0x169, "75+303"⟩, ⟨0x16b, 0x16b, "75+304"⟩, ⟨0x16d, 0x16d, "75+306"⟩,
    ⟨0x16f, 0x16f, "75+30a"⟩, ⟨0x171, 0x171, "75+30b"⟩, ⟨0x173, 0x173, "75+328"⟩,
    ⟨0x175, 0x175, "77+302"⟩, ⟨0x177, 0x177, "79+302"⟩, ⟨0x17a, 0x17a, "7a+301"⟩,
    ⟨0x17c, 0x17c, "7a+307"⟩, ⟨0x17e, 0x17e, "7a+30c"⟩, ⟨0x1a1, 0x1a1, "6f+31b"⟩,
    ⟨0x1b0, 0x1b0, "75+31b"⟩, ⟨0x1ce, 0x1ce, "61+30c"⟩, ⟨0x1d0, 0x1d0, "69+30c"⟩,
    ⟨0x1d2, 0x1d2, "6f+30c"⟩, ⟨0x1d4, 0x1d4, "75+30c"⟩, ⟨0x1d6, 0x1d6, "fc+304"⟩,
    ⟨0x1d8, 0x1d8, "fc+301"⟩, ⟨0x1da, 0x1da, "fc+30c"⟩, ⟨0x1dc, 0x1dc, "fc+300"⟩,
    ⟨0x1df, 0x1df, "e4+304"⟩, ⟨0x1e1, 0x1e1, "227+304"⟩, ⟨0x1e3, 0x1e3, "e6+304"⟩,
    ⟨0x1e7, 0x1e7, "67+30c"⟩, ⟨0x1e9, 0x1e9, "6b+30c"⟩, ⟨0x1eb, 0x1eb, "6f+328"⟩,
    ⟨0x1ed, 0x1ed, "1eb+304"⟩, ⟨0x1ef, 0x1f0, "292+30c 6a+30c"⟩, ⟨0x1f5, 0x1f5, "67+301"⟩,
    ⟨0x1f9, 0x1f9, "6e+300"⟩, ⟨0x1fb, 0x1fb, "e5+301"⟩, ⟨0x1fd, 0x1fd, "e6+301"⟩,
    ⟨0x1ff, 0x1ff, "f8+301"⟩, ⟨0x201, 0x201, "61+30f"⟩, ⟨0x203, 0x203, "61+311"⟩,
    ⟨0x205, 0x205, "65+30f"⟩, ⟨0x207, 0x207, "65+311"⟩, ⟨0x209, 0x209, "69+30f"⟩,
    ⟨0x20b, 0x20b, "69+311"⟩, ⟨0x20d, 0x20d, "6f+30f"⟩, ⟨0x20f, 0x20f, "6f+311"⟩,
    ⟨0x211, 0x211, "72+30f"⟩, ⟨0x213, 0x213, "72+311"⟩, ⟨0x215, 0x215, "75+30f"⟩,
    ⟨0x217, 0x217, "75+311"⟩, ⟨0x219, 0x219, "73+326"⟩, ⟨0x21b, 0x21b, "74+326"⟩,
    ⟨0x21f, 0x21f, "68+30c"⟩, ⟨0x227, 0x227, "61+307"⟩, ⟨0x229, 0x229, "65+327"⟩,
    ⟨0x22b, 0x22b, "f6+304"⟩, ⟨0x22d, 0x22d, "f5+304"⟩, ⟨0x22f, 0x22f, "6f+307"⟩,
    ⟨0x231, 0x231, "22f+304"⟩, ⟨0x233, 0x233, "79+304"⟩, ⟨0x390, 0x390, "3ca+301"⟩,
    ⟨0x3ac, 0x3b0, "3b1+301 3b5+301 3b7+301 3b9+301 3cb+301"⟩,
    ⟨0x3ca, 0x3ce, "3b9+308 3c5+308 3bf+301 3c5+301 3c9+301"⟩, ⟨0x439, 0x439, "438+306"⟩,
    ⟨0x450, 0x451, "435+300 435+308"⟩, ⟨0x453, 0x453, "433+301"⟩, ⟨0x457, 0x457, "456+308"⟩,
    ⟨0x45c, 0x45e, "43a+301 438+300 443+306"⟩, ⟨0x477, 0x477, "475+30f"⟩,
    ⟨0x4c2, 0x4c2, "436+306"⟩, ⟨0x4d1, 0x4d1, "430+306"⟩, ⟨0x4d3, 0x4d3, "430+308"⟩,
    ⟨0x4d7, 0x4d7, "435+306"⟩, ⟨0x4db, 0x4db, "4d9+308"⟩, ⟨0x4dd, 0x4dd, "436+308"⟩,
    ⟨0x4df, 0x4df, "437+308"⟩, ⟨0x4e3, 0x4e3, "438+304"⟩, ⟨0x4e5, 0x4e5, "438+308"⟩,
    ⟨0x4e7, 0x4e7, "43e+308"⟩, ⟨0x4eb, 0x4eb, "4e9+308"⟩, ⟨0x4ed, 0x4ed, "44d+308"⟩,
    ⟨0x4ef, 0x4ef, "443+304"⟩, ⟨0x4f1, 0x4f1, "443+308"⟩, ⟨0x4f3, 0x4f3, "443+30b"⟩,
    ⟨0x4f5, 0x4f5, "447+308"⟩, ⟨0x4f9, 0x4f9, "44b+308"⟩,
    ⟨0x622, 0x626, "627+653 627+654 648+654 627+655 64a+654"⟩, ⟨0x6c0, 0x6c0, "6d5+654"⟩,
    ⟨0x6c2, 0x6c2, "6c1+654"⟩, ⟨0x6d3, 0x6d3, "6d2+654"⟩, ⟨0x929, 0x929, "928+93c"⟩,
    ⟨0x931, 0x931, "930+93c"⟩, ⟨0x934, 0x934, "933+93c"⟩, ⟨0x9cb, 0x9cc, "9c7+9be 9c7+9d7"⟩,
    ⟨0xb48, 0xb48, "b47+b56"⟩, ⟨0xb4b, 0xb4c, "b47+b3e b47+b57"⟩, ⟨0xb94, 0xb94, "b92+bd7"⟩,
    ⟨0xbca, 0xbcc, "bc6+bbe bc7+bbe bc6+bd7"⟩, ⟨0xc48, 0xc48, "c46+c56"⟩,
    ⟨0xcc0, 0xcc0, "cbf+cd5"⟩, ⟨0xcc7, 0xcc8, "cc6+cd5 cc6+cd6"⟩,
    ⟨0xcca, 0xccb, "cc6+cc2 cca+cd5"⟩, ⟨0xd4a, 0xd4c, "d46+d3e d47+d3e d46+d57"⟩,
    ⟨0xdda, 0xdda, "dd9+dca"⟩, ⟨0xddc, 0xdde, "dd9+dcf ddc+dca dd9+ddf"⟩,
    ⟨0x1026, 0x1026, "1025+102e"⟩, ⟨0x1b06, 0x1b06, "1b05+1b35"⟩, ⟨0x1b08, 0x1b08, "1b07+1b35"⟩,
    ⟨0x1b0a, 0x1b0a, "1b09+1b35"⟩, ⟨0x1b0c, 0x1b0c, "1b0b+1b35"⟩, ⟨0x1b0e, 0x1b0e, "1b0d+1b35"⟩,
    ⟨0x1b12, 0x1b12, "1b11+1b35"⟩, ⟨0x1b3b, 0x1b3b, "1b3a+1b35"⟩, ⟨0x1b3d, 0x1b3d, "1b3c+1b35"⟩,
    ⟨0x1b40, 0x1b41, "1b3e+1b35 1b3f+1b35"⟩, ⟨0x1b43, 0x1b43, "1b42+1b35"⟩,
    ⟨0x1e01, 0x1e01, "61+325"⟩, ⟨0x1e03, 0x1e03, "62+307"⟩, ⟨0x1e05, 0x1e05, "62+323"⟩,
    ⟨0x1e07, 0x1e07, "62+331"⟩, ⟨0x1e09, 0x1e09, "e7+301"⟩, ⟨0x1e0b, 0x1e0b, "64+307"⟩,
    ⟨0x1e0d, 0x1e0d, "64+323"⟩, ⟨0x1e0f, 0x1e0f, "64+331"⟩, ⟨0x1e11, 0x1e11, "64+327"⟩,
    ⟨0x1e13, 0x1e13, "64+32d"⟩, ⟨0x1e15, 0x1e15, "113+300"⟩, ⟨0x1e17, 0x1e17, "113+301"⟩,
    ⟨0x1e19, 0x1e19, "65+32d"⟩, ⟨0x1e1b, 0x1e1b, "65+330"⟩, ⟨0x1e1d, 0x1e1d, "229+306"⟩,
    ⟨0x1e1f, 0x1e1f, "66+307"⟩, ⟨0x1e21, 0x1e21, "67+304"⟩, ⟨0x1e23, 0x1e23, "68+307"⟩,
    ⟨0x1e25, 0x1e25, "68+323"⟩, ⟨0x1e27, 0x1e27, "68+308"⟩, ⟨0x1e29, 0x1e29, "68+327"⟩,
    ⟨0x1e2b, 0x1e2b, "68+32e"⟩, ⟨0x1e2d, 0x1e2d, "69+330"⟩, ⟨0x1e2f, 0x1e2f, "ef+301"⟩,
    ⟨0x1e31, 0x1e31, "6b+301"⟩, ⟨0x1e33, 0x1e33, "6b+323"⟩, ⟨0x1e35, 0x1e35, "6b+331"⟩,
    ⟨0x1e37, 0x1e37, "6c+323"⟩, ⟨0x1e39, 0x1e39, "1e37+304"⟩, ⟨0x1e3b, 0x1e3b, "6c+331"⟩,
    ⟨0x1e3d, 0x1e3d, "6c+32d"⟩, ⟨0x1e3f, 0x1e3f, "6d+301"⟩, ⟨0x1e41, 0x1e41, "6d+307"⟩,
    ⟨0x1e43, 0x1e43, "6d+323"⟩, ⟨0x1e45, 0x1e45, "6e+307"⟩, ⟨0x1e47, 0x1e47, "6e+323"⟩,
    ⟨0x1e49, 0x1e49, "6e+331"⟩, ⟨0x1e4b, 0x1e4b, "6e+32d"⟩, ⟨0x1e4d, 0x1e4d, "f5+301"⟩,
    ⟨0x1e4f, 0x1e4f, "f5+308"⟩, ⟨0x1e51, 0x1e51, "14d+300"⟩, ⟨0x1e53, 0x1e53, "14d+301"⟩,
    ⟨0x1e55, 0x1e55, "70+301"⟩, ⟨0x1e57, 0x1e57, "70+307"⟩, ⟨0x1e59, 0x1e59, "72+307"⟩,
    ⟨0x1e5b, 0x1e5b, "72+323"⟩, ⟨0x1e5d, 0x1e5d, "1e5b+304"⟩, ⟨0x1e5f, 0x1e5f, "72+331"⟩,
    ⟨0x1e61, 0x1e61, "73+307"⟩, ⟨0x1e63, 0x1e63, "73+323"⟩, ⟨0x1e65, 0x1e65, "15b+307"⟩,
    ⟨0x1e67, 0x1e67, "161+307"⟩, ⟨0x1e69, 0x1e69, "1e63+307"⟩, ⟨0x1e6b, 0x1e6b, "74+307"⟩,
    ⟨0x1e6d, 0x1e6d, "74+323"⟩, ⟨0x1e6f, 0x1e6f, "74+331"⟩, ⟨0x1e71, 0x1e71, "74+32d"⟩,
    ⟨0x1e73, 0x1e73, "75+324"⟩, ⟨0x1e75, 0x1e75, "75+330"⟩, ⟨0x1e77, 0x1e77, "75+32d"⟩,
    ⟨0x1e79, 0x1e79, "169+301"⟩, ⟨0x1e7b, 0x1e7b, "16b+308"⟩, ⟨0x1e7d, 0x1e7d, "76+303"⟩,
    ⟨0x1e7f, 0x1e7f, "76+323"⟩, ⟨0x1e81, 0x1e81, "77+300"⟩, ⟨0x1e83, 0x1e83, "77+301"⟩,
    ⟨0x1e85, 0x1e85, "77+308"⟩, ⟨0x1e87, 0x1e87, "77+307"⟩, ⟨0x1e89, 0x1e89, "77+323"⟩,
    ⟨0x1e8b, 0x1e8b, "78+307"⟩, ⟨0x1e8d, 0x1e8d, "78+308"⟩, ⟨0x1e8f, 0x1e8f, "79+307"⟩,
    ⟨0x1e91, 0x1e91, "7a+302"⟩, ⟨0x1e93, 0x1e93, "7a+323"⟩,
    ⟨0x1e95, 0x1e99, "7a+331 68+331 74+308 77+30a 79+30a"⟩, ⟨0x1ea1, 0x1ea1, "61+323"⟩,
    ⟨0x1ea3, 0x1ea3, "61+309"⟩, ⟨0x1ea5, 0x1ea5, "e2+301"⟩, ⟨0x1ea7, 0x1ea7, "e2+300"⟩,
    ⟨0x1ea9, 0x1ea9, "e2+309"⟩, ⟨0x1eab, 0x1eab, "e2+303"⟩, ⟨0x1ead, 0x1ead, "1ea1+302"⟩,
    ⟨0x1eaf, 0x1eaf, "103+301"⟩, ⟨0x1eb1, 0x1eb1, "103+300"⟩, ⟨0x1eb3, 0x1eb3, "103+309"⟩,
    ⟨0x1eb5, 0x1eb5, "103+303"⟩, ⟨0x1eb7, 0x1eb7, "1ea1+306"⟩, ⟨0x1eb9, 0x1eb9, "65+323"⟩,
    ⟨0x1ebb, 0x1ebb, "65+309"⟩, ⟨0x1ebd, 0x1ebd, "65+303"⟩, ⟨0x1ebf, 0x1ebf, "ea+301"⟩,
    ⟨0x1ec1, 0x1ec1, "ea+300"⟩, ⟨0x1ec3, 0x1ec3, "ea+309"⟩, ⟨0x1ec5, 0x1ec5, "ea+303"⟩,
    ⟨0x1ec7, 0x1ec7, "1eb9+302"⟩, ⟨0x1ec9, 0x1ec9, "69+309"⟩, ⟨0x1ecb, 0x1ecb, "69+323"⟩,
    ⟨0x1ecd, 0x1ecd, "6f+323"⟩, ⟨0x1ecf, 0x1ecf, "6f+309"⟩, ⟨0x1ed1, 0x1ed1, "f4+301"⟩,
    ⟨0x1ed3, 0x1ed3, "f4+300"⟩, ⟨0x1ed5, 0x1ed5, "f4+309"⟩, ⟨0x1ed7, 0x1ed7, "f4+303"⟩,
    ⟨0x1ed9, 0x1ed9, "1ecd+302"⟩, ⟨0x1edb, 0x1edb, "1a1+301"⟩, ⟨0x1edd, 0x1edd, "1a1+300"⟩,
    ⟨0x1edf, 0x1edf, "1a1+309"⟩, ⟨0x1ee1, 0x1ee1, "1a1+303"⟩, ⟨0x1ee3, 0x1ee3, "1a1+323"⟩,
    ⟨0x1ee5, 0x1ee5, "75+323"⟩, ⟨0x1ee7, 0x1ee7, "75+309"⟩, ⟨0x1ee9, 0x1ee9, "1b0+301"⟩,
    ⟨0x1eeb, 0x1eeb, "1b0+300"⟩, ⟨0x1eed, 0x1eed, "1b0+309"⟩, ⟨0x1eef, 0x1eef, "1b0+303"⟩,
    ⟨0x1ef1, 0x1ef1, "1b0+323"⟩, ⟨0x1ef3, 0x1ef3, "79+300"⟩, ⟨0x1ef5, 0x1ef5, "79+323"⟩,
    ⟨0x1ef7, 0x1ef7, "79+309"⟩, ⟨0x1ef9, 0x1ef9, "79+303"⟩,
    ⟨0x1f00, 0x1f07, "3b1+313 3b1+314 1f00+300 1f01+300 1f00+301 1f01+301 1f00+342 1f01+342"⟩,
    ⟨0x1f10, 0x1f15, "3b5+313 3b5+314 1f10+300 1f11+300 1f10+301 1f11+301"⟩,
    ⟨0x1f20, 0x1f27, "3b7+313 3b7+314 1f20+300 1f21+300 1f20+301 1f21+301 1f20+342 1f21+342"⟩,
    ⟨0x1f30, 0x1f37, "3b9+313 3b9+314 1f30+300 1f31+300 1f30+301 1f31+301 1f30+342 1f31+342"⟩,
    ⟨0x1f40, 0x1f45, "3bf+313 3bf+314 1f40+300 1f41+300 1f40+301 1f41+301"⟩,
    ⟨0x1f50, 0x1f57, "3c5+313 3c5+314 1f50+300 1f51+300 1f50+301 1f51+301 1f50+342 1f51+342"⟩,
    ⟨0x1f60, 0x1f67, "3c9+313 3c9+314 1f60+300 1f61+300 1f60+301 1f61+301 1f60+342 1f61+342"⟩,
    ⟨0x1f70, 0x1f70, "3b1+300"⟩, ⟨0x1f72, 0x1f72, "3b5+300"⟩, ⟨0x1f74, 0x1f74, "3b7+300"⟩,
    ⟨0x1f76, 0x1f76, "3b9+300"⟩, ⟨0x1f78, 0x1f78, "3bf+300"⟩, ⟨0x1f7a, 0x1f7a, "3c5+300"⟩,
    ⟨0x1f7c, 0x1f7c, "3c9+300"⟩, ⟨0x1fb0, 0x1fb1, "3b1+306 3b1+304"⟩, ⟨0x1fb6, 0x1fb6, "3b1+342"⟩,
    ⟨0x1fc6, 0x1fc6, "3b7+342"⟩, ⟨0x1fd0, 0x1fd2, "3b9+306 3b9+304 3ca+300"⟩,
    ⟨0x1fd6, 0x1fd7, "3b9+342 3ca+342"⟩, ⟨0x1fe0, 0x1fe2, "3c5+306 3c5+304 3cb+300"⟩,
    ⟨0x1fe4, 0x1fe7, "3c1+313 3c1+314 3c5+342 3cb+342"⟩, ⟨0x1ff6, 0x1ff6, "3c9+342"⟩,
    ⟨0x219a, 0x219b, "2190+338 2192+338"⟩, ⟨0x21ae, 0x21ae, "2194+338"⟩,
    ⟨0x21cd, 0x21cf, "21d0+338 21d4+338 21d2+338"⟩, ⟨0x2204, 0x2204, "2203+338"⟩,
    ⟨0x2209, 0x2209, "2208+338"⟩, ⟨0x220c, 0x220c, "220b+338"⟩, ⟨0x2224, 0x2224, "2223+338"⟩,
    ⟨0x2226, 0x2226, "2225+338"⟩, ⟨0x2241, 0x2241, "223c+338"⟩, ⟨0x2244, 0x2244, "2243+338"⟩,
    ⟨0x2247, 0x2247, "2245+338"⟩, ⟨0x2249, 0x2249, "2248+338"⟩, ⟨0x2260, 0x2260, "3d+338"⟩,
    ⟨0x2262, 0x2262, "2261+338"⟩, ⟨0x226d, 0x2271, "224d+338 3c+338 3e+338 2264+338 2265+338"⟩,
    ⟨0x2274, 0x2275, "2272+338 2273+338"⟩, ⟨0x2278, 0x2279, "2276+338 2277+338"⟩,
    ⟨0x2280, 0x2281, "227a+338 227b+338"⟩, ⟨0x2284, 0x2285, "2282+338 2283+338"⟩,
    ⟨0x2288, 0x2289, "2286+338 2287+338"⟩, ⟨0x22ac, 0x22af, "22a2+338 22a8+338 22a9+338 22ab+338"⟩,
    ⟨0x22e0, 0x22e3, "227c+338 227d+338 2291+338 2292+338"⟩,
    ⟨0x22ea, 0x22ed, "22b2+338 22b3+338 22b4+338 22b5+338"⟩, ⟨0x304c, 0x304c, "304b+3099"⟩,
    ⟨0x304e, 0x304e, "304d+3099"⟩, ⟨0x3050, 0x3050, "304f+3099"⟩, ⟨0x3052, 0x3052, "3051+3099"⟩,
    ⟨0x3054, 0x3054, "3053+3099"⟩, ⟨0x3056, 0x3056, "3055+3099"⟩, ⟨0x3058, 0x3058, "3057+3099"⟩,
    ⟨0x305a, 0x305a, "3059+3099"⟩, ⟨0x305c, 0x305c, "305b+3099"⟩, ⟨0x305e, 0x305e, "305d+3099"⟩,
    ⟨0x3060, 0x3060, "305f+3099"⟩, ⟨0x3062, 0x3062, "3061+3099"⟩, ⟨0x3065, 0x3065, "3064+3099"⟩,
    ⟨0x3067, 0x3067, "3066+3099"⟩, ⟨0x3069, 0x3069, "3068+3099"⟩,
    ⟨0x3070, 0x3071, "306f+3099 306f+309a"⟩, ⟨0x3073, 0x3074, "3072+3099 3072+309a"⟩,
    ⟨0x3076, 0x3077, "3075+3099 3075+309a"⟩, ⟨0x3079, 0x307a, "3078+3099 3078+309a"⟩,
    ⟨0x307c, 0x307d, "307b+3099 307b+309a"⟩, ⟨0x3094, 0x3094, "3046+3099"⟩,
    ⟨0x309e, 0x309e, "309d+3099"⟩, ⟨0x30ac, 0x30ac, "30ab+3099"⟩, ⟨0x30ae, 0x30ae, "30ad+3099"⟩,
    ⟨0x30b0, 0x30b0, "30af+3099"⟩, ⟨0x30b2, 0x30b2, "30b1+3099"⟩, ⟨0x30b4, 0x30b4, "30b3+3099"⟩,
    ⟨0x30b6, 0x30b6, "30b5+3099"⟩, ⟨0x30b8, 0x30b8, "30b7+3099"⟩, ⟨0x30ba, 0x30ba, "30b9+3099"⟩,
    ⟨0x30bc, 0x30bc, "30bb+3099"⟩, ⟨0x30be, 0x30be, "30bd+3099"⟩, ⟨0x30c0, 0x30c0, "30bf+3099"⟩,
    ⟨0x30c2, 0x30c2, "30c1+3099"⟩, ⟨0x30c5, 0x30c5, "30c4+3099"⟩, ⟨0x30c7, 0x30c7, "30c6+3099"⟩,
    ⟨0x30c9, 0x30c9, "30c8+3099"⟩, ⟨0x30d0, 0x30d1, "30cf+3099 30cf+309a"⟩,
    ⟨0x30d3, 0x30d4, "30d2+3099 30d2+309a"⟩, ⟨0x30d6, 0x30d7, "30d5+3099 30d5+309a"⟩,
    ⟨0x30d9, 0x30da, "30d8+3099 30d8+309a"⟩, ⟨0x30dc, 0x30dd, "30db+3099 30db+309a"⟩,
    ⟨0x30f4, 0x30f4, "30a6+3099"⟩, ⟨0x30f7, 0x30fa, "30ef+3099 30f0+3099 30f1+3099 30f2+3099"⟩,
    ⟨0x30fe, 0x30fe, "30fd+3099"⟩, ⟨0x105c9, 0x105c9, "105d2+307"⟩,
    ⟨0x105e4, 0x105e4, "105da+307"⟩, ⟨0x1109a, 0x1109a, "11099+110ba"⟩,
    ⟨0x1109c, 0x1109c, "1109b+110ba"⟩, ⟨0x110ab, 0x110ab, "110a5+110ba"⟩,
    ⟨0x1112e, 0x1112f, "11131+11127 11132+11127"⟩, ⟨0x1134b, 0x1134c, "11347+1133e 11347+11357"⟩,
    ⟨0x11383, 0x11383, "11382+113c9"⟩, ⟨0x11385, 0x11385, "11384+113bb"⟩,
    ⟨0x1138e, 0x1138e, "1138b+113c2"⟩, ⟨0x11391, 0x11391, "11390+113c9"⟩,
    ⟨0x113c5, 0x113c5, "113c2+113c2"⟩, ⟨0x113c7, 0x113c8, "113c2+113b8 113c2+113c9"⟩,
    ⟨0x114bb, 0x114bc, "114b9+114ba 114b9+114b0"⟩, ⟨0x114be, 0x114be, "114b9+114bd"⟩,
    ⟨0x115ba, 0x115bb, "115b8+115af 115b9+115af"⟩, ⟨0x11938, 0x11938, "11935+11930"⟩,
    ⟨0x16121, 0x16125, "1611e+1611e 1611e+16129 1611e+1611f 16129+1611f 1611e+16120"⟩,
    ⟨0x16126, 0x16128, "16121+1611f 16122+1611f 16121+16120"⟩,
    ⟨0x16d68, 0x16d6a, "16d67+16d67 16d63+16d67 16d69+16d67"⟩
  ]

/-- The classes of marks: first and last character, and their class. -/
def classes : List (Nat × Nat × Nat) := [
    (0x300, 0x314, 230), (0x315, 0x315, 232), (0x316, 0x319, 220), (0x31a, 0x31a, 232),
    (0x31b, 0x31b, 216), (0x31c, 0x320, 220), (0x321, 0x322, 202), (0x323, 0x326, 220),
    (0x327, 0x328, 202), (0x329, 0x333, 220), (0x334, 0x338, 1), (0x339, 0x33c, 220),
    (0x33d, 0x346, 230), (0x347, 0x349, 220), (0x34a, 0x34c, 230), (0x34d, 0x34e, 220),
    (0x350, 0x352, 230), (0x353, 0x356, 220), (0x357, 0x357, 230), (0x358, 0x358, 232),
    (0x359, 0x35a, 220), (0x35b, 0x35b, 230), (0x35c, 0x35c, 233), (0x35d, 0x35e, 234),
    (0x35f, 0x35f, 233), (0x360, 0x361, 234), (0x362, 0x362, 233), (0x363, 0x36f, 230),
    (0x483, 0x487, 230), (0x591, 0x591, 220), (0x592, 0x595, 230), (0x596, 0x596, 220),
    (0x597, 0x599, 230), (0x59a, 0x59a, 222), (0x59b, 0x59b, 220), (0x59c, 0x5a1, 230),
    (0x5a2, 0x5a7, 220), (0x5a8, 0x5a9, 230), (0x5aa, 0x5aa, 220), (0x5ab, 0x5ac, 230),
    (0x5ad, 0x5ad, 222), (0x5ae, 0x5ae, 228), (0x5af, 0x5af, 230), (0x5b0, 0x5b0, 10),
    (0x5b1, 0x5b1, 11), (0x5b2, 0x5b2, 12), (0x5b3, 0x5b3, 13), (0x5b4, 0x5b4, 14),
    (0x5b5, 0x5b5, 15), (0x5b6, 0x5b6, 16), (0x5b7, 0x5b7, 17), (0x5b8, 0x5b8, 18),
    (0x5b9, 0x5ba, 19), (0x5bb, 0x5bb, 20), (0x5bc, 0x5bc, 21), (0x5bd, 0x5bd, 22),
    (0x5bf, 0x5bf, 23), (0x5c1, 0x5c1, 24), (0x5c2, 0x5c2, 25), (0x5c4, 0x5c4, 230),
    (0x5c5, 0x5c5, 220), (0x5c7, 0x5c7, 18), (0x610, 0x617, 230), (0x618, 0x618, 30),
    (0x619, 0x619, 31), (0x61a, 0x61a, 32), (0x64b, 0x64b, 27), (0x64c, 0x64c, 28),
    (0x64d, 0x64d, 29), (0x64e, 0x64e, 30), (0x64f, 0x64f, 31), (0x650, 0x650, 32),
    (0x651, 0x651, 33), (0x652, 0x652, 34), (0x653, 0x654, 230), (0x655, 0x656, 220),
    (0x657, 0x65b, 230), (0x65c, 0x65c, 220), (0x65d, 0x65e, 230), (0x65f, 0x65f, 220),
    (0x670, 0x670, 35), (0x6d6, 0x6dc, 230), (0x6df, 0x6e2, 230), (0x6e3, 0x6e3, 220),
    (0x6e4, 0x6e4, 230), (0x6e7, 0x6e8, 230), (0x6ea, 0x6ea, 220), (0x6eb, 0x6ec, 230),
    (0x6ed, 0x6ed, 220), (0x711, 0x711, 36), (0x730, 0x730, 230), (0x731, 0x731, 220),
    (0x732, 0x733, 230), (0x734, 0x734, 220), (0x735, 0x736, 230), (0x737, 0x739, 220),
    (0x73a, 0x73a, 230), (0x73b, 0x73c, 220), (0x73d, 0x73d, 230), (0x73e, 0x73e, 220),
    (0x73f, 0x741, 230), (0x742, 0x742, 220), (0x743, 0x743, 230), (0x744, 0x744, 220),
    (0x745, 0x745, 230), (0x746, 0x746, 220), (0x747, 0x747, 230), (0x748, 0x748, 220),
    (0x749, 0x74a, 230), (0x7eb, 0x7f1, 230), (0x7f2, 0x7f2, 220), (0x7f3, 0x7f3, 230),
    (0x7fd, 0x7fd, 220), (0x816, 0x819, 230), (0x81b, 0x823, 230), (0x825, 0x827, 230),
    (0x829, 0x82d, 230), (0x859, 0x85b, 220), (0x897, 0x898, 230), (0x899, 0x89b, 220),
    (0x89c, 0x89f, 230), (0x8ca, 0x8ce, 230), (0x8cf, 0x8d3, 220), (0x8d4, 0x8e1, 230),
    (0x8e3, 0x8e3, 220), (0x8e4, 0x8e5, 230), (0x8e6, 0x8e6, 220), (0x8e7, 0x8e8, 230),
    (0x8e9, 0x8e9, 220), (0x8ea, 0x8ec, 230), (0x8ed, 0x8ef, 220), (0x8f0, 0x8f0, 27),
    (0x8f1, 0x8f1, 28), (0x8f2, 0x8f2, 29), (0x8f3, 0x8f5, 230), (0x8f6, 0x8f6, 220),
    (0x8f7, 0x8f8, 230), (0x8f9, 0x8fa, 220), (0x8fb, 0x8ff, 230), (0x93c, 0x93c, 7),
    (0x94d, 0x94d, 9), (0x951, 0x951, 230), (0x952, 0x952, 220), (0x953, 0x954, 230),
    (0x9bc, 0x9bc, 7), (0x9cd, 0x9cd, 9), (0x9fe, 0x9fe, 230), (0xa3c, 0xa3c, 7),
    (0xa4d, 0xa4d, 9), (0xabc, 0xabc, 7), (0xacd, 0xacd, 9), (0xb3c, 0xb3c, 7), (0xb4d, 0xb4d, 9),
    (0xbcd, 0xbcd, 9), (0xc3c, 0xc3c, 7), (0xc4d, 0xc4d, 9), (0xc55, 0xc55, 84),
    (0xc56, 0xc56, 91), (0xcbc, 0xcbc, 7), (0xccd, 0xccd, 9), (0xd3b, 0xd3c, 9), (0xd4d, 0xd4d, 9),
    (0xdca, 0xdca, 9), (0xe38, 0xe39, 103), (0xe3a, 0xe3a, 9), (0xe48, 0xe4b, 107),
    (0xeb8, 0xeb9, 118), (0xeba, 0xeba, 9), (0xec8, 0xecb, 122), (0xf18, 0xf19, 220),
    (0xf35, 0xf35, 220), (0xf37, 0xf37, 220), (0xf39, 0xf39, 216), (0xf71, 0xf71, 129),
    (0xf72, 0xf72, 130), (0xf74, 0xf74, 132), (0xf7a, 0xf7d, 130), (0xf80, 0xf80, 130),
    (0xf82, 0xf83, 230), (0xf84, 0xf84, 9), (0xf86, 0xf87, 230), (0xfc6, 0xfc6, 220),
    (0x1037, 0x1037, 7), (0x1039, 0x103a, 9), (0x108d, 0x108d, 220), (0x135d, 0x135f, 230),
    (0x1714, 0x1715, 9), (0x1734, 0x1734, 9), (0x17d2, 0x17d2, 9), (0x17dd, 0x17dd, 230),
    (0x18a9, 0x18a9, 228), (0x1939, 0x1939, 222), (0x193a, 0x193a, 230), (0x193b, 0x193b, 220),
    (0x1a17, 0x1a17, 230), (0x1a18, 0x1a18, 220), (0x1a60, 0x1a60, 9), (0x1a75, 0x1a7c, 230),
    (0x1a7f, 0x1a7f, 220), (0x1ab0, 0x1ab4, 230), (0x1ab5, 0x1aba, 220), (0x1abb, 0x1abc, 230),
    (0x1abd, 0x1abd, 220), (0x1abf, 0x1ac0, 220), (0x1ac1, 0x1ac2, 230), (0x1ac3, 0x1ac4, 220),
    (0x1ac5, 0x1ac9, 230), (0x1aca, 0x1aca, 220), (0x1acb, 0x1adc, 230), (0x1add, 0x1add, 220),
    (0x1ae0, 0x1ae5, 230), (0x1ae6, 0x1ae6, 220), (0x1ae7, 0x1aea, 230), (0x1aeb, 0x1aeb, 234),
    (0x1b34, 0x1b34, 7), (0x1b44, 0x1b44, 9), (0x1b6b, 0x1b6b, 230), (0x1b6c, 0x1b6c, 220),
    (0x1b6d, 0x1b73, 230), (0x1baa, 0x1bab, 9), (0x1be6, 0x1be6, 7), (0x1bf2, 0x1bf3, 9),
    (0x1c37, 0x1c37, 7), (0x1cd0, 0x1cd2, 230), (0x1cd4, 0x1cd4, 1), (0x1cd5, 0x1cd9, 220),
    (0x1cda, 0x1cdb, 230), (0x1cdc, 0x1cdf, 220), (0x1ce0, 0x1ce0, 230), (0x1ce2, 0x1ce8, 1),
    (0x1ced, 0x1ced, 220), (0x1cf4, 0x1cf4, 230), (0x1cf8, 0x1cf9, 230), (0x1dc0, 0x1dc1, 230),
    (0x1dc2, 0x1dc2, 220), (0x1dc3, 0x1dc9, 230), (0x1dca, 0x1dca, 220), (0x1dcb, 0x1dcc, 230),
    (0x1dcd, 0x1dcd, 234), (0x1dce, 0x1dce, 214), (0x1dcf, 0x1dcf, 220), (0x1dd0, 0x1dd0, 202),
    (0x1dd1, 0x1df5, 230), (0x1df6, 0x1df6, 232), (0x1df7, 0x1df8, 228), (0x1df9, 0x1df9, 220),
    (0x1dfa, 0x1dfa, 218), (0x1dfb, 0x1dfb, 230), (0x1dfc, 0x1dfc, 233), (0x1dfd, 0x1dfd, 220),
    (0x1dfe, 0x1dfe, 230), (0x1dff, 0x1dff, 220), (0x20d0, 0x20d1, 230), (0x20d2, 0x20d3, 1),
    (0x20d4, 0x20d7, 230), (0x20d8, 0x20da, 1), (0x20db, 0x20dc, 230), (0x20e1, 0x20e1, 230),
    (0x20e5, 0x20e6, 1), (0x20e7, 0x20e7, 230), (0x20e8, 0x20e8, 220), (0x20e9, 0x20e9, 230),
    (0x20ea, 0x20eb, 1), (0x20ec, 0x20ef, 220), (0x20f0, 0x20f0, 230), (0x2cef, 0x2cf1, 230),
    (0x2d7f, 0x2d7f, 9), (0x2de0, 0x2dff, 230), (0x302a, 0x302a, 218), (0x302b, 0x302b, 228),
    (0x302c, 0x302c, 232), (0x302d, 0x302d, 222), (0x302e, 0x302f, 224), (0x3099, 0x309a, 8),
    (0xa66f, 0xa66f, 230), (0xa674, 0xa67d, 230), (0xa69e, 0xa69f, 230), (0xa6f0, 0xa6f1, 230),
    (0xa806, 0xa806, 9), (0xa82c, 0xa82c, 9), (0xa8c4, 0xa8c4, 9), (0xa8e0, 0xa8f1, 230),
    (0xa92b, 0xa92d, 220), (0xa953, 0xa953, 9), (0xa9b3, 0xa9b3, 7), (0xa9c0, 0xa9c0, 9),
    (0xaab0, 0xaab0, 230), (0xaab2, 0xaab3, 230), (0xaab4, 0xaab4, 220), (0xaab7, 0xaab8, 230),
    (0xaabe, 0xaabf, 230), (0xaac1, 0xaac1, 230), (0xaaf6, 0xaaf6, 9), (0xabed, 0xabed, 9),
    (0xfb1e, 0xfb1e, 26), (0xfe20, 0xfe26, 230), (0xfe27, 0xfe2d, 220), (0xfe2e, 0xfe2f, 230),
    (0x101fd, 0x101fd, 220), (0x102e0, 0x102e0, 220), (0x10376, 0x1037a, 230),
    (0x10a0d, 0x10a0d, 220), (0x10a0f, 0x10a0f, 230), (0x10a38, 0x10a38, 230),
    (0x10a39, 0x10a39, 1), (0x10a3a, 0x10a3a, 220), (0x10a3f, 0x10a3f, 9), (0x10ae5, 0x10ae5, 230),
    (0x10ae6, 0x10ae6, 220), (0x10d24, 0x10d27, 230), (0x10d69, 0x10d6d, 230),
    (0x10eab, 0x10eac, 230), (0x10efa, 0x10efb, 220), (0x10efd, 0x10eff, 220),
    (0x10f46, 0x10f47, 220), (0x10f48, 0x10f4a, 230), (0x10f4b, 0x10f4b, 220),
    (0x10f4c, 0x10f4c, 230), (0x10f4d, 0x10f50, 220), (0x10f82, 0x10f82, 230),
    (0x10f83, 0x10f83, 220), (0x10f84, 0x10f84, 230), (0x10f85, 0x10f85, 220),
    (0x11046, 0x11046, 9), (0x11070, 0x11070, 9), (0x1107f, 0x1107f, 9), (0x110b9, 0x110b9, 9),
    (0x110ba, 0x110ba, 7), (0x11100, 0x11102, 230), (0x11133, 0x11134, 9), (0x11173, 0x11173, 7),
    (0x111c0, 0x111c0, 9), (0x111ca, 0x111ca, 7), (0x11235, 0x11235, 9), (0x11236, 0x11236, 7),
    (0x112e9, 0x112e9, 7), (0x112ea, 0x112ea, 9), (0x1133b, 0x1133c, 7), (0x1134d, 0x1134d, 9),
    (0x11366, 0x11374, 230), (0x113ce, 0x113d0, 9), (0x11442, 0x11442, 9), (0x11446, 0x11446, 7),
    (0x1145e, 0x1145e, 230), (0x114c2, 0x114c2, 9), (0x114c3, 0x114c3, 7), (0x115bf, 0x115bf, 9),
    (0x115c0, 0x115c0, 7), (0x1163f, 0x1163f, 9), (0x116b6, 0x116b6, 9), (0x116b7, 0x116b7, 7),
    (0x1172b, 0x1172b, 9), (0x11839, 0x11839, 9), (0x1183a, 0x1183a, 7), (0x1193d, 0x1193e, 9),
    (0x11943, 0x11943, 7), (0x119e0, 0x119e0, 9), (0x11a34, 0x11a34, 9), (0x11a47, 0x11a47, 9),
    (0x11a99, 0x11a99, 9), (0x11c3f, 0x11c3f, 9), (0x11d42, 0x11d42, 7), (0x11d44, 0x11d45, 9),
    (0x11d97, 0x11d97, 9), (0x11f41, 0x11f42, 9), (0x1612f, 0x1612f, 9), (0x16af0, 0x16af4, 1),
    (0x16b30, 0x16b36, 230), (0x16ff0, 0x16ff1, 6), (0x1bc9e, 0x1bc9e, 1), (0x1d165, 0x1d166, 216),
    (0x1d167, 0x1d169, 1), (0x1d16d, 0x1d16d, 226), (0x1d16e, 0x1d172, 216),
    (0x1d17b, 0x1d182, 220), (0x1d185, 0x1d189, 230), (0x1d18a, 0x1d18b, 220),
    (0x1d1aa, 0x1d1ad, 230), (0x1d242, 0x1d244, 230), (0x1e000, 0x1e08f, 230),
    (0x1e130, 0x1e136, 230), (0x1e2ae, 0x1e2ae, 230), (0x1e2ec, 0x1e2ef, 230),
    (0x1e4ec, 0x1e4ed, 232), (0x1e4ee, 0x1e4ee, 220), (0x1e4ef, 0x1e4ef, 230),
    (0x1e5ee, 0x1e5ee, 230), (0x1e5ef, 0x1e5ef, 220), (0x1e6e3, 0x1e6e3, 230),
    (0x1e6e6, 0x1e6e6, 230), (0x1e6ee, 0x1e6ef, 230), (0x1e6f5, 0x1e6f5, 230),
    (0x1e8d0, 0x1e8d6, 220), (0x1e944, 0x1e949, 230), (0x1e94a, 0x1e94a, 7)
  ]

/-- The class by which marks are ordered; a character that starts anew has class zero. -/
def markClass (c : Char) : Nat :=
  let n := c.toNat
  match classes.find? fun (first, last, _) => first ≤ n && n ≤ last with
  | some (_, _, k) => k
  | none => 0

/-- Korean syllables are composed of up to three letters by their numbers. -/
def syllableStart : Nat := 0xac00

def isSyllable (n : Nat) : Bool := syllableStart ≤ n && n < syllableStart + 11172

def decomposeWithin : Nat → Nat → List Nat
  | 0, n => [n]
  | depth + 1, n =>
    if isSyllable n then
      let i := n - syllableStart
      [0x1100 + i / 588, 0x1161 + i % 588 / 28] ++
        (if i % 28 = 0 then [] else [0x11a7 + i % 28])
    else match Text.Block.find? parts n with
      | some (first :: rest) => decomposeWithin depth first ++ rest
      | _ => [n]

/-- The letter and the marks of a character; at most four are joined one after the other. -/
def decompose (c : Char) : List Char := (decomposeWithin 4 c.toNat).map Char.ofNat

/-- Puts a mark behind the marks of lower classes. -/
def place (c : Char) : List Char → List Char
  | [] => [c]
  | d :: rest =>
    if 0 < markClass d && markClass d < markClass c then d :: place c rest else c :: d :: rest

def ordered (cs : List Char) : List Char := cs.foldr place []

def composeSyllable? (a b : Nat) : Option Nat :=
  if 0x1100 ≤ a ∧ a < 0x1113 ∧ 0x1161 ≤ b ∧ b < 0x1176 then
    some (syllableStart + ((a - 0x1100) * 21 + (b - 0x1161)) * 28)
  else if isSyllable a ∧ (a - syllableStart) % 28 = 0 ∧ 0x11a7 < b ∧ b < 0x11c3 then
    some (a + (b - 0x11a7))
  else none

/-- The one character for two. -/
def compose? (a b : Char) : Option Char :=
  match composeSyllable? a.toNat b.toNat with
  | some n => some (Char.ofNat n)
  | none => (Text.Block.inverse? parts [a.toNat, b.toNat]).map Char.ofNat

/-- Joins what can be joined with the last character that started anew; `marks` stand between, the
last one first. -/
def joinMarks (start : Char) (marks : List Char) : List Char → List Char
  | [] => start :: marks.reverse
  | c :: rest =>
    let free := match marks with
      | [] => true
      | last :: _ => markClass last < markClass c
    match if free then compose? start c else none with
    | some joined => joinMarks joined marks rest
    | none =>
      if markClass c = 0 then start :: marks.reverse ++ joinMarks c [] rest
      else joinMarks start (c :: marks) rest

/-- Below U+0300 there are no marks, and the letters are composed already. -/
def composed (cs : List Char) : List Char :=
  if cs.all (·.toNat < 0x300) then cs
  else match ordered (cs.flatMap decompose) with
  | [] => []
  | c :: rest => joinMarks c [] rest

end EventWiring.Uri.Domain
