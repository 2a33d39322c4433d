import UhpSql.SqlRules

/-!
# The tables of the parser (`parser/bison_parser.cpp`)

The tables that the grammar was made into. `yybackup` and the end of `yyreduce` are `action` and
`goto`. Locations are left out, and the stacks do not grow, since `HSQL_LTYPE` is not trivial : a
parser has room for `YYINITDEPTH` states.
-/

namespace UhpSql

/-! ## Tables -/

/-- `yypact`. -/
def yypact : List ℤ :=
  [618, 65, 87, 127, 142, 87, 104, 68, 95, 60, 87, 138, 87, 122, 18, 201, 51, 51, 51, 225, 71,
   .neg 321, 126, .neg 321, 126, .neg 321, .neg 321, .neg 321, .neg 321, .neg 321, .neg 321,
   .neg 321, .neg 321, .neg 321, .neg 321, .neg 321, .neg 321, .neg 23, .neg 321, 246, 74, .neg 321,
   86, 185, .neg 321, 153, 153, 153, 87, 288, 87, 170, .neg 321, 171, .neg 49, 171, 171, 171, 87,
   .neg 321, 179, 133, .neg 321, .neg 321, .neg 321, .neg 321, .neg 321, .neg 321, 587, .neg 321,
   204, .neg 321, .neg 321, 189, .neg 23, 129, .neg 321, 61, .neg 321, 302, 37, 314, 200, 318, 87,
   87, 255, .neg 321, 236, 164, 341, 308, 87, 355, 355, 358, 87, 87, .neg 321, 202, 201, .neg 321,
   214, 360, 363, 207, 219, .neg 321, .neg 321, .neg 321, .neg 23, 290, 280, .neg 23, 24, .neg 321,
   .neg 321, .neg 321, .neg 321, 402, .neg 321, 403, .neg 321, .neg 321, .neg 321, 233, 234,
   .neg 321, .neg 321, .neg 321, .neg 321, 713, .neg 321, .neg 321, .neg 321, .neg 321, .neg 321,
   .neg 321, 369, .neg 321, 285, .neg 40, 164, 326, .neg 321, 355, 413, 66, 262, .neg 46, .neg 321,
   .neg 321, 328, 309, .neg 321, 309, .neg 321, .neg 321, .neg 321, .neg 321, .neg 321, 416,
   .neg 321, .neg 321, 326, .neg 321, .neg 321, 345, .neg 321, .neg 321, 129, .neg 321, .neg 321,
   326, 345, 326, 160, .neg 321, .neg 321, 130, .neg 321, 37, .neg 321, .neg 321, .neg 321,
   .neg 321, .neg 321, .neg 321, .neg 321, .neg 321, .neg 321, .neg 321, .neg 321, .neg 321,
   .neg 321, .neg 321, .neg 321, .neg 321, 87, 419, 312, 35, 300, 8, 251, 256, 260, 230, 386, 263,
   396, .neg 321, 278, .neg 68, 449, .neg 321, .neg 321, .neg 321, .neg 321, .neg 321, .neg 321,
   .neg 321, .neg 321, .neg 321, .neg 321, .neg 321, .neg 321, .neg 321, .neg 321, .neg 321,
   .neg 321, 339, .neg 321, 121, 264, .neg 321, 326, 341, .neg 321, 399, .neg 321, .neg 321, 391,
   .neg 321, .neg 321, 266, 123, .neg 321, 348, 269, .neg 321, 19, 24, .neg 23, 271, .neg 321,
   .neg 34, 24, .neg 68, 397, 17, .neg 321, .neg 321, 276, 361, .neg 321, 453, 335, 281, 141,
   .neg 321, .neg 321, .neg 321, 312, 6, 12, 401, 130, 326, 326, 109, .neg 43, 282, 396, 646, 326,
   118, 286, .neg 74, 326, 326, 396, .neg 321, 396, .neg 55, 289, .neg 44, 396, 396, 396, 396, 396,
   396, 396, 396, 396, 396, 396, 396, 396, 396, 396, 360, 87, .neg 321, 457, 37, .neg 68, .neg 321,
   171, 288, 37, .neg 321, 416, 20, 255, .neg 321, 326, .neg 321, 459, .neg 321, .neg 321, .neg 321,
   .neg 321, 326, .neg 321, .neg 321, .neg 321, .neg 321, 326, 326, 413, 355, .neg 321, 434,
   .neg 321, 291, 293, .neg 321, .neg 321, 294, .neg 321, .neg 321, .neg 321, .neg 321, 295,
   .neg 321, 22, 297, 413, .neg 321, 35, .neg 321, .neg 321, 326, .neg 321, .neg 321, 303, 379, 131,
   .neg 56, 148, 326, 326, .neg 321, 401, 381, 54, .neg 321, .neg 321, .neg 321, 365, 593, 664, 396,
   316, 278, .neg 321, 383, 319, 664, 664, 664, 664, 714, 714, 714, 714, 118, 118, 56, 56, 56,
   .neg 87, 315, .neg 321, .neg 321, 167, 491, .neg 321, 168, .neg 321, 312, .neg 321, 144,
   .neg 321, 320, .neg 321, 28, .neg 321, 427, .neg 321, .neg 321, .neg 321, .neg 68, .neg 68, 174,
   .neg 321, 323, 495, .neg 321, 497, 498, 501, .neg 321, 389, .neg 321, .neg 321, 406, .neg 321,
   22, .neg 321, 413, 176, .neg 321, 180, .neg 321, 326, 453, 326, 326, .neg 321, 44, 64, 336,
   .neg 321, 396, 664, 278, 337, 182, .neg 321, .neg 321, .neg 321, .neg 321, .neg 321, 338, 412,
   .neg 321, .neg 321, .neg 321, 437, 438, 440, 420, 20, 517, .neg 321, .neg 321, .neg 321, 398,
   .neg 321, .neg 321, 516, 192, 349, 350, 351, .neg 321, .neg 321, .neg 321, 199, .neg 321,
   .neg 321, 39, 352, .neg 68, 143, .neg 321, 326, .neg 321, 646, 353, 208, .neg 321, .neg 321, 28,
   20, .neg 321, .neg 321, .neg 321, 20, 270, 356, 326, 357, .neg 321, 525, .neg 321, .neg 321,
   .neg 321, .neg 321, .neg 321, .neg 321, .neg 321, .neg 68, .neg 321, .neg 321, .neg 321,
   .neg 321, 78, 413, .neg 24, .neg 321, 362, 359, 326, 209, 326, .neg 321, .neg 321, 13, .neg 68,
   .neg 321, .neg 321, .neg 68, 366, 364, .neg 321]

/-- `yydefact`. -/
def yydefact : List ℕ :=
  [280, 0, 0, 0, 0, 0, 0, 0, 0, 0, 0, 0, 0, 0, 0, 0, 30, 30, 30, 0, 300, 3, 21, 19, 21, 18, 8, 9, 7,
   11, 16, 17, 13, 14, 12, 15, 10, 0, 279, 0, 267, 96, 33, 0, 44, 51, 51, 51, 0, 0, 0, 0, 266, 91,
   0, 91, 91, 91, 0, 42, 0, 281, 282, 29, 26, 28, 27, 1, 280, 2, 0, 6, 5, 144, 0, 105, 106, 136, 88,
   0, 154, 0, 0, 270, 0, 0, 130, 37, 0, 100, 0, 0, 0, 0, 0, 0, 0, 0, 43, 0, 0, 4, 0, 0, 124, 0, 0,
   118, 119, 117, 0, 121, 0, 0, 150, 268, 245, 248, 250, 0, 251, 0, 246, 247, 256, 0, 153, 155, 238,
   239, 240, 249, 241, 242, 243, 244, 32, 31, 0, 269, 0, 0, 100, 0, 95, 0, 0, 0, 0, 130, 102, 90, 0,
   40, 38, 40, 89, 86, 87, 284, 283, 0, 143, 123, 0, 113, 112, 136, 109, 108, 110, 120, 116, 0, 136,
   0, 0, 114, 252, 255, 34, 0, 217, 218, 219, 220, 221, 222, 223, 224, 225, 226, 227, 228, 229, 230,
   253, 50, 0, 0, 280, 0, 0, 234, 0, 0, 0, 0, 0, 0, 0, 236, 0, 129, 158, 165, 166, 167, 160, 162,
   168, 161, 181, 169, 170, 171, 172, 164, 159, 174, 175, 0, 301, 0, 0, 98, 0, 0, 101, 0, 92, 93, 0,
   36, 41, 24, 0, 22, 127, 125, 151, 278, 150, 0, 135, 137, 142, 150, 146, 148, 145, 254, 156, 0, 0,
   47, 0, 0, 0, 0, 52, 54, 55, 280, 124, 0, 0, 0, 0, 0, 0, 0, 0, 0, 177, 0, 176, 0, 0, 0, 0, 0, 178,
   0, 0, 0, 0, 0, 0, 0, 0, 0, 0, 0, 0, 0, 0, 0, 0, 0, 0, 0, 0, 0, 99, 0, 0, 104, 103, 91, 0, 0, 20,
   0, 0, 130, 126, 0, 276, 0, 277, 157, 107, 111, 0, 141, 140, 139, 115, 0, 0, 0, 0, 58, 0, 63, 75,
   0, 62, 60, 0, 70, 69, 59, 67, 72, 57, 77, 0, 0, 46, 0, 49, 213, 0, 235, 237, 0, 0, 0, 0, 0, 0, 0,
   200, 0, 0, 0, 173, 163, 192, 193, 0, 188, 0, 0, 0, 179, 0, 191, 190, 206, 207, 208, 209, 210,
   211, 212, 183, 182, 185, 184, 186, 187, 0, 35, 302, 0, 0, 39, 0, 23, 280, 128, 257, 259, 0, 261,
   274, 260, 132, 152, 275, 138, 149, 147, 0, 45, 0, 0, 61, 0, 0, 0, 68, 0, 81, 82, 0, 56, 76, 78,
   0, 0, 53, 0, 204, 0, 0, 0, 0, 198, 0, 0, 0, 231, 0, 189, 0, 0, 0, 180, 232, 97, 94, 25, 0, 0,
   296, 288, 294, 292, 295, 290, 0, 0, 0, 273, 265, 271, 0, 122, 48, 0, 0, 0, 0, 0, 80, 83, 79, 0,
   85, 214, 0, 0, 202, 0, 201, 0, 205, 233, 0, 0, 196, 194, 274, 0, 291, 293, 289, 0, 258, 275, 0,
   0, 74, 0, 64, 66, 71, 84, 215, 216, 199, 203, 197, 195, 262, 285, 297, 0, 134, 65, 0, 0, 0, 0, 0,
   131, 73, 0, 298, 286, 272, 133, 234, 0, 287]

/-- `yypgoto`. -/
def yypgoto : List ℤ :=
  [.neg 321, .neg 321, .neg 321, 475, .neg 321, 523, .neg 321, 227, .neg 321, 48, .neg 321,
   .neg 321, .neg 321, .neg 321, 228, .neg 89, 409, .neg 321, .neg 321, .neg 321, 42, .neg 321, 190,
   .neg 321, 106, .neg 321, .neg 321, .neg 321, .neg 321, 116, .neg 321, .neg 321, .neg 47,
   .neg 321, .neg 321, .neg 321, .neg 321, .neg 321, .neg 321, 415, .neg 321, .neg 321, 321,
   .neg 194, .neg 85, .neg 321, 125, .neg 73, .neg 42, .neg 321, .neg 321, .neg 86, 292, .neg 321,
   .neg 321, .neg 321, .neg 136, .neg 321, .neg 321, .neg 106, .neg 321, 238, .neg 321, .neg 321,
   .neg 11, .neg 260, .neg 321, .neg 27, 240, .neg 143, .neg 191, .neg 321, .neg 321, .neg 321,
   .neg 321, .neg 321, .neg 321, 298, .neg 321, .neg 321, .neg 321, .neg 321, .neg 321, .neg 150,
   .neg 321, .neg 321, .neg 321, .neg 321, .neg 321, 27, .neg 60, .neg 91, .neg 321, .neg 321,
   .neg 92, .neg 321, .neg 321, .neg 321, .neg 321, .neg 321, .neg 299, 67, .neg 321, .neg 321,
   .neg 321, 2, .neg 321, .neg 321, 73, 322, .neg 321, .neg 321, .neg 321, .neg 321, 480, .neg 321,
   .neg 321, .neg 321, .neg 321, .neg 320]

/-- `yydefgoto`. -/
def yydefgoto : List ℤ :=
  [.neg 1, 19, 20, 21, 22, 71, 246, 247, 23, 64, 24, 137, 25, 26, 88, 153, 243, 27, 28, 29, 83, 269,
   270, 271, 357, 434, 430, 439, 440, 441, 272, 30, 92, 31, 240, 241, 32, 33, 34, 147, 35, 149, 150,
   36, 167, 168, 169, 76, 110, 111, 172, 77, 164, 248, 325, 326, 144, 481, 539, 114, 254, 255, 337,
   104, 177, 249, 125, 126, 250, 251, 214, 215, 216, 217, 218, 219, 220, 281, 221, 222, 223, 224,
   225, 194, 195, 196, 226, 227, 228, 229, 230, 128, 129, 130, 131, 132, 133, 134, 135, 413, 414,
   415, 416, 417, 51, 418, 140, 477, 478, 479, 331, 37, 38, 61, 62, 419, 474, 543, 69, 233]

/-- `yytable`. -/
def yytable : List ℤ :=
  [213, 106, 154, 154, 41, 155, 265, 44, 95, 96, 97, 162, 52, 238, 54, 365, 546, 284, 163, 286, 127,
   426, 328, 40, 170, 377, 538, 170, 174, 261, 256, 328, 258, 260, 73, 113, 143, 58, 266, 443, 289,
   116, 117, 118, 93, 384, 289, 297, 372, 435, 86, 449, 89, 199, 154, 335, 231, 290, 289, 387, 98,
   252, 267, 290, 280, 65, 66, 373, 257, 288, 107, 340, 385, 374, 235, 290, 388, 59, 175, 362, 289,
   336, 436, 94, 200, 312, 141, 142, 84, 85, 40, 39, 284, 317, 152, 268, 176, 290, 157, 158, 382,
   379, 383, 467, 445, 108, 389, 390, 391, 392, 393, 394, 395, 396, 397, 398, 399, 400, 401, 402,
   403, 262, 491, 73, 119, 437, 460, 368, 253, 234, 42, 289, 237, 289, 201, 369, 370, 112, 107, 287,
   120, 109, 438, 329, 468, 43, 380, 381, 290, 469, 290, 74, 476, 289, 327, 470, 471, 50, 289, 535,
   498, 48, 75, 203, 116, 117, 118, 170, 333, 467, 290, 499, 472, 108, 45, 290, 512, 473, 289, 366,
   211, 363, 274, 46, 275, 121, 122, 123, 49, 420, 297, 256, 55, 457, 412, 290, 424, 425, 503, 105,
   263, 56, 63, 367, 60, 204, 205, 206, 536, 109, 468, 537, 530, 47, 522, 469, 124, 53, 466, 279,
   404, 470, 471, 289, 159, 67, 311, 455, 312, 452, 453, 57, 327, 203, 116, 117, 118, 70, 472, 450,
   290, 332, .neg 297, 473, 207, 289, 338, 119, 68, 78, 79, 154, 297, 427, 532, 448, 127, 289, 373,
   524, 80, 127, 290, 120, 451, 501, 182, 183, 184, 185, 186, 187, 408, 259, 290, 204, 205, 206, 81,
   82, 208, 203, 116, 117, 118, 308, 309, 310, 311, 407, 312, 87, 90, 209, 410, 467, 314, 91, 322,
   315, 102, 323, 454, 99, 494, 115, 496, 497, 121, 122, 123, 100, 103, 459, 207, 405, 360, 119,
   136, 361, 138, 139, .neg 263, 204, 205, 206, 210, 211, 145, 203, 116, 117, 118, 120, 212, 73,
   468, 143, 146, 124, 279, 469, 463, 465, 148, 181, 181, 470, 471, 482, 208, 492, 315, 151, 315,
   493, 525, 505, 327, 116, 327, 156, 207, 209, 472, 119, 118, 516, .neg 297, 473, 517, 204, 205,
   206, 521, 163, 74, 315, 121, 122, 123, 120, 165, 527, 544, 502, 327, 315, 161, 203, 116, 117,
   118, 542, 166, 545, 210, 211, 208, 203, 116, 117, 118, 171, 212, 173, 178, 179, 180, 124, 207,
   209, 181, 119, 197, 198, 232, 236, 239, 245, 242, 112, 264, 15, 273, 276, 121, 122, 123, 120,
   277, 282, 205, 206, 278, 285, 313, 319, 316, 320, 321, 324, 205, 206, 210, 211, 208, 327,
   .neg 264, 334, 341, 339, 212, 342, 358, 359, 375, 124, 73, 209, 406, 378, 422, 386, 428, 429,
   291, 431, 432, 433, 207, 442, 447, 119, 121, 122, 123, 343, 446, 289, 207, 384, 344, 119, 345,
   346, 461, 347, 462, 120, 458, 312, 210, 211, 464, 348, 480, 483, 475, 120, 212, 484, 292, 485,
   486, 124, 283, 487, 488, 489, 507, 500, 504, 506, 508, 509, 283, 510, 511, 209, 513, 349, 515,
   514, 518, 519, 520, 523, 526, 209, 531, 534, 533, 541, 121, 122, 123, 540, 350, 548, 351, 352,
   275, 101, 121, 122, 123, 72, 409, 293, 411, 444, 210, 211, 495, 353, 490, 202, 318, 354, 212,
   355, 210, 211, 244, 124, 364, 421, 547, 294, 212, 356, 423, 330, 529, 124, 295, 296, 371, 528,
   160, 0, 0, 297, 298, 0, 0, .neg 299, 0, 0, 0, 0, 0, 0, 1, 0, 0, 0, 0, 0, 0, 0, 2, 0, 299, 300,
   301, 302, 303, 3, 0, 304, 305, 4, 306, 307, 308, 309, 310, 311, 0, 312, 0, 5, 0, 1, 6, 7, 0, 0,
   0, 0, 0, 2, 0, 0, 0, 0, 8, 9, 3, 0, 0, 0, 4, 0, 292, 0, 0, 10, 0, 0, 11, 0, 5, 0, 0, 6, 7, 0, 0,
   0, 0, 0, 0, 0, 0, 0, 0, 8, 9, 0, 0, 12, 0, 0, 0, 13, 0, 0, 10, 0, 0, 11, 0, 0, 0, 0, 0, 0, 0, 0,
   14, 293, 0, 0, 0, 0, 15, 292, 0, 0, 0, 0, 12, 0, 0, 456, 13, 0, 0, 0, 0, 376, 0, 0, 0, 292, 0, 0,
   0, 296, 0, 14, 0, 0, 0, 297, 298, 15, 0, 0, 0, 0, 0, 0, 0, 0, 0, 16, 17, 18, 0, 0, 0, 0, 293, 0,
   299, 300, 301, 302, 303, 0, 0, 304, 305, 0, 306, 307, 308, 309, 310, 311, .neg 300, 312, 376,
   292, 0, 0, 16, 17, 18, 0, 296, 0, 0, 0, 0, 0, 297, 298, 0, 0, 0, 0, 0, 0, 0, 0, 0, 0, 296, 0, 0,
   0, 0, 0, 297, .neg 300, 0, 299, 300, 301, 302, 303, 0, 0, 304, 305, 0, 306, 307, 308, 309, 310,
   311, 0, 312, .neg 300, .neg 300, .neg 300, 302, 303, 0, 0, 304, 305, 0, 306, 307, 308, 309, 310,
   311, 0, 312, 0, 0, 0, 0, 0, 296, 0, 0, 0, 0, 0, 297, 182, 183, 184, 185, 186, 187, 188, 189, 190,
   191, 192, 193, 0, 0, 0, 0, 0, 0, 0, 0, 0, 0, 0, .neg 300, .neg 300, 0, 0, .neg 300, .neg 300, 0,
   306, 307, 308, 309, 310, 311, 0, 312]

/-- `yycheck`. -/
def yycheck : List ℤ :=
  [143, 74, 93, 94, 2, 94, 200, 5, 55, 56, 57, 103, 10, 149, 12, 3, 3, 208, 12, 210, 80, 341, 3, 3,
   110, 285, 50, 113, 113, 179, 173, 3, 175, 176, 57, 77, 82, 19, 3, 359, 114, 4, 5, 6, 93, 100,
   114, 134, 91, 27, 48, 107, 50, 93, 145, 89, 145, 131, 114, 103, 58, 167, 27, 131, 207, 17, 18,
   110, 174, 212, 9, 54, 127, 116, 147, 131, 120, 59, 54, 273, 114, 115, 60, 132, 124, 172, 84, 85,
   46, 47, 3, 26, 283, 236, 92, 60, 72, 131, 96, 97, 291, 175, 293, 25, 364, 44, 297, 298, 299, 300,
   301, 302, 303, 304, 305, 306, 307, 308, 309, 310, 311, 181, 442, 57, 87, 103, 386, 277, 170, 63,
   3, 114, 178, 114, 174, 278, 279, 76, 9, 212, 103, 80, 120, 124, 66, 3, 289, 290, 131, 71, 131,
   174, 124, 114, 178, 77, 78, 97, 114, 81, 116, 93, 37, 3, 4, 5, 6, 253, 253, 25, 131, 107, 94, 44,
   70, 131, 475, 99, 114, 167, 167, 175, 174, 79, 176, 148, 149, 150, 93, 325, 134, 334, 70, 384,
   174, 131, 339, 340, 458, 74, 198, 79, 151, 276, 3, 45, 46, 47, 130, 80, 66, 531, 511, 109, 175,
   71, 179, 79, 412, 110, 312, 77, 78, 114, 99, 0, 170, 173, 172, 372, 373, 109, 178, 3, 4, 5, 6,
   111, 94, 91, 131, 252, 98, 99, 84, 114, 257, 87, 177, 3, 176, 342, 134, 342, 514, 124, 316, 114,
   110, 116, 174, 321, 131, 103, 116, 456, 136, 137, 138, 139, 140, 141, 319, 113, 131, 45, 46, 47,
   93, 126, 120, 3, 4, 5, 6, 167, 168, 169, 170, 316, 172, 3, 122, 133, 321, 25, 175, 126, 175, 178,
   96, 178, 375, 124, 447, 3, 449, 450, 148, 149, 150, 178, 123, 386, 84, 313, 175, 87, 4, 178, 120,
   3, 178, 45, 46, 47, 166, 167, 92, 3, 4, 5, 6, 103, 174, 57, 66, 82, 174, 179, 110, 71, 175, 175,
   3, 178, 178, 77, 78, 175, 120, 175, 178, 45, 178, 175, 499, 175, 178, 4, 178, 3, 84, 133, 94, 87,
   6, 175, 98, 99, 178, 45, 46, 47, 175, 12, 174, 178, 148, 149, 150, 103, 175, 175, 175, 458, 178,
   178, 174, 3, 4, 5, 6, 536, 175, 538, 166, 167, 120, 3, 4, 5, 6, 113, 174, 125, 4, 4, 175, 179,
   84, 133, 178, 87, 45, 130, 3, 155, 90, 3, 111, 76, 3, 111, 124, 174, 148, 149, 150, 103, 174, 45,
   46, 47, 174, 172, 97, 38, 174, 48, 174, 93, 46, 47, 166, 167, 120, 178, 178, 178, 174, 54, 174,
   92, 119, 174, 174, 179, 57, 133, 3, 175, 3, 174, 30, 174, 17, 174, 174, 174, 84, 174, 93, 87,
   148, 149, 150, 24, 175, 114, 84, 100, 29, 87, 31, 32, 103, 34, 173, 103, 174, 172, 166, 167, 3,
   42, 69, 174, 178, 103, 174, 6, 53, 6, 6, 179, 120, 6, 119, 103, 98, 175, 175, 175, 77, 77, 120,
   77, 98, 133, 3, 68, 6, 125, 175, 175, 175, 175, 175, 133, 174, 6, 175, 174, 148, 149, 150, 175,
   85, 175, 87, 88, 176, 68, 148, 149, 150, 24, 320, 100, 323, 361, 166, 167, 448, 102, 440, 142,
   237, 106, 174, 108, 166, 167, 155, 179, 274, 327, 541, 120, 174, 118, 334, 251, 507, 179, 127,
   128, 280, 506, 100, .neg 1, .neg 1, 134, 135, .neg 1, .neg 1, 0, .neg 1, .neg 1, .neg 1, .neg 1,
   .neg 1, .neg 1, 7, .neg 1, .neg 1, .neg 1, .neg 1, .neg 1, .neg 1, .neg 1, 15, .neg 1, 155, 156,
   157, 158, 159, 22, .neg 1, 162, 163, 26, 165, 166, 167, 168, 169, 170, .neg 1, 172, .neg 1, 36,
   .neg 1, 7, 39, 40, .neg 1, .neg 1, .neg 1, .neg 1, .neg 1, 15, .neg 1, .neg 1, .neg 1, .neg 1,
   51, 52, 22, .neg 1, .neg 1, .neg 1, 26, .neg 1, 53, .neg 1, .neg 1, 62, .neg 1, .neg 1, 65,
   .neg 1, 36, .neg 1, .neg 1, 39, 40, .neg 1, .neg 1, .neg 1, .neg 1, .neg 1, .neg 1, .neg 1,
   .neg 1, .neg 1, .neg 1, 51, 52, .neg 1, .neg 1, 86, .neg 1, .neg 1, .neg 1, 90, .neg 1, .neg 1,
   62, .neg 1, .neg 1, 65, .neg 1, .neg 1, .neg 1, .neg 1, .neg 1, .neg 1, .neg 1, .neg 1, 105, 100,
   .neg 1, .neg 1, .neg 1, .neg 1, 111, 53, .neg 1, .neg 1, .neg 1, .neg 1, 86, .neg 1, .neg 1, 114,
   90, .neg 1, .neg 1, .neg 1, .neg 1, 120, .neg 1, .neg 1, .neg 1, 53, .neg 1, .neg 1, .neg 1, 128,
   .neg 1, 105, .neg 1, .neg 1, .neg 1, 134, 135, 111, .neg 1, .neg 1, .neg 1, .neg 1, .neg 1,
   .neg 1, .neg 1, .neg 1, .neg 1, 152, 153, 154, .neg 1, .neg 1, .neg 1, .neg 1, 100, .neg 1, 155,
   156, 157, 158, 159, .neg 1, .neg 1, 162, 163, .neg 1, 165, 166, 167, 168, 169, 170, 100, 172,
   120, 53, .neg 1, .neg 1, 152, 153, 154, .neg 1, 128, .neg 1, .neg 1, .neg 1, .neg 1, .neg 1, 134,
   135, .neg 1, .neg 1, .neg 1, .neg 1, .neg 1, .neg 1, .neg 1, .neg 1, .neg 1, .neg 1, 128, .neg 1,
   .neg 1, .neg 1, .neg 1, .neg 1, 134, 135, .neg 1, 155, 156, 157, 158, 159, .neg 1, .neg 1, 162,
   163, .neg 1, 165, 166, 167, 168, 169, 170, .neg 1, 172, 155, 156, 157, 158, 159, .neg 1, .neg 1,
   162, 163, .neg 1, 165, 166, 167, 168, 169, 170, .neg 1, 172, .neg 1, .neg 1, .neg 1, .neg 1,
   .neg 1, 128, .neg 1, .neg 1, .neg 1, .neg 1, .neg 1, 134, 136, 137, 138, 139, 140, 141, 142, 143,
   144, 145, 146, 147, .neg 1, .neg 1, .neg 1, .neg 1, .neg 1, .neg 1, .neg 1, .neg 1, .neg 1,
   .neg 1, .neg 1, 158, 159, .neg 1, .neg 1, 162, 163, .neg 1, 165, 166, 167, 168, 169, 170, .neg 1,
   172]

/-- `yyr1`. -/
def yyr1 : List ℕ :=
  [0, 180, 181, 182, 182, 183, 183, 183, 183, 183, 184, 184, 184, 184, 184, 184, 184, 184, 184, 184,
   185, 185, 186, 186, 187, 187, 188, 188, 188, 189, 189, 190, 191, 192, 192, 193, 193, 194, 195,
   196, 196, 197, 198, 198, 198, 199, 199, 199, 199, 199, 200, 200, 201, 201, 202, 202, 203, 204,
   204, 204, 204, 204, 204, 204, 204, 204, 204, 204, 204, 204, 204, 205, 205, 206, 206, 206, 207,
   207, 208, 208, 209, 209, 209, 209, 210, 210, 211, 211, 211, 211, 212, 212, 213, 214, 215, 216,
   217, 218, 218, 219, 219, 220, 221, 221, 222, 223, 223, 223, 224, 224, 225, 225, 226, 226, 227,
   227, 228, 229, 229, 229, 230, 230, 231, 232, 232, 233, 234, 234, 235, 236, 236, 237, 237, 238,
   238, 239, 239, 240, 240, 241, 242, 242, 242, 243, 243, 244, 244, 244, 244, 244, 244, 245, 245,
   246, 246, 247, 247, 248, 249, 249, 249, 249, 249, 250, 250, 250, 250, 250, 250, 250, 250, 250,
   250, 250, 251, 251, 252, 252, 252, 252, 252, 253, 253, 253, 253, 253, 253, 253, 253, 253, 253,
   253, 254, 254, 255, 255, 255, 255, 256, 256, 256, 256, 257, 257, 258, 258, 259, 259, 259, 259,
   259, 259, 259, 260, 260, 261, 262, 263, 263, 263, 263, 263, 263, 264, 264, 264, 264, 264, 264,
   265, 265, 266, 267, 268, 269, 269, 269, 269, 270, 270, 270, 270, 270, 270, 270, 271, 272, 272,
   273, 273, 274, 275, 276, 277, 277, 277, 278, 279, 279, 280, 280, 281, 281, 282, 282, 283, 284,
   285, 285, 286, 286, 287, 287, 288, 288, 289, 289, 290, 290, 291, 291, 292, 293, 293, 294, 295,
   295, 295, 296, 296, 296, 296, 296, 296, 296, 296, 296, 296, 297, 298, 298, 299, 299]

/-- `yyr2`. -/
def yyr2 : List ℕ :=
  [0, 2, 2, 1, 3, 2, 2, 1, 1, 1, 1, 1, 1, 1, 1, 1, 1, 1, 1, 1, 5, 0, 1, 3, 1, 4, 2, 2, 2, 1, 0, 4,
   1, 2, 5, 7, 5, 1, 1, 3, 0, 5, 2, 3, 2, 8, 7, 6, 9, 7, 3, 0, 1, 3, 1, 1, 3, 1, 1, 1, 1, 2, 1, 1,
   4, 5, 4, 1, 2, 1, 1, 3, 0, 5, 3, 0, 1, 0, 1, 2, 2, 1, 1, 2, 5, 4, 4, 4, 3, 4, 2, 0, 5, 1, 4, 4,
   2, 8, 5, 3, 0, 5, 1, 3, 3, 2, 2, 6, 1, 1, 1, 3, 3, 3, 3, 5, 2, 1, 1, 1, 1, 0, 7, 1, 0, 1, 1, 0,
   2, 2, 0, 4, 0, 2, 0, 3, 0, 1, 3, 2, 1, 1, 0, 2, 0, 2, 2, 4, 2, 4, 0, 1, 3, 1, 0, 1, 3, 2, 1, 1,
   1, 1, 1, 3, 1, 1, 1, 1, 1, 1, 1, 1, 1, 3, 1, 1, 2, 2, 2, 3, 4, 1, 3, 3, 3, 3, 3, 3, 3, 4, 3, 3,
   3, 3, 5, 6, 5, 6, 4, 6, 3, 5, 4, 5, 4, 5, 3, 3, 3, 3, 3, 3, 3, 3, 5, 6, 6, 1, 1, 1, 1, 1, 1, 1,
   1, 1, 1, 1, 1, 1, 1, 4, 4, 5, 1, 3, 1, 3, 1, 1, 1, 1, 1, 1, 1, 1, 1, 1, 1, 1, 1, 1, 2, 2, 3, 2,
   1, 1, 3, 1, 1, 1, 4, 1, 3, 2, 1, 1, 3, 1, 0, 1, 5, 1, 0, 2, 1, 1, 0, 1, 0, 2, 1, 3, 3, 4, 6, 8,
   1, 2, 1, 2, 1, 2, 1, 1, 1, 0, 1, 1, 0, 1, 3]

/-! ## Actions -/

def YYPACT_NINF : ℤ :=
  -321

def YYTABLE_NINF : ℤ :=
  -300

def YYLAST : ℤ :=
  886

def YYNTOKENS : ℕ :=
  180

def YYFINAL : ℕ :=
  67

def YYINITDEPTH : ℕ :=
  200

/-- `yydefault`. -/
def defaultAction (state : ℕ) : Lr.Action :=
  match yydefact.getD state 0 with
  | 0 => .error
  | n + 1 => .reduce (n + 1)

/-- `yybackup`. In a state whose action is the same for all tokens the lexer is not asked for one.
`YYTRANSLATE` makes nothing that is not a token. -/
def action (state : ℕ) (token : Symbol) : Lr.Action :=
  let yyn := yypact.getD state YYPACT_NINF
  if yyn = YYPACT_NINF ∨ YYNTOKENS ≤ token.num then defaultAction state
  else
    let i := yyn + token.num
    if i < 0 ∨ YYLAST < i ∨ yycheck.getD i.toNat (-1) ≠ token.num then defaultAction state
    else
      let n := yytable.getD i.toNat 0
      if 0 < n then .shift n.toNat
      else if n = YYTABLE_NINF then .error
      else .reduce (-n).toNat

/-- The state after the left-hand side of a rule, which is given by its number. -/
def goto (state lhs : ℕ) : ℕ :=
  let i := yypgoto.getD (lhs - YYNTOKENS) 0 + state
  if 0 ≤ i ∧ i ≤ YYLAST ∧ yycheck.getD i.toNat (-1) = state then (yytable.getD i.toNat 0).toNat
  else (yydefgoto.getD (lhs - YYNTOKENS) 0).toNat

/-- `yyparse`. -/
def yyparse : Lr.Parser Sem ParseState Failure where
  rule := rule
  action := action
  goto state lhs := goto state lhs.num
  eof := ⟨.YYEOF, ()⟩
  final := YYFINAL
  depth := YYINITDEPTH

theorem action_yyparse (state : ℕ) (token : Symbol) :
    yyparse.action state token = action state token := by
  simp only [yyparse]

theorem goto_yyparse (state : ℕ) (lhs : Symbol) : yyparse.goto state lhs = goto state lhs.num := by
  simp only [yyparse]

/-- The rules have the left-hand sides that the tables say. -/
theorem num_lhs_rules : rules.map (fun r => r.lhs.num) = yyr1.tail := by
  decide +kernel

/-- They have right-hand sides of the lengths that the tables say. -/
theorem length_rhs_rules : rules.map (fun r => r.rhs.length) = yyr2.tail := by
  decide +kernel

end UhpSql
