import UhpSql.Packed
import UhpSql.ParserTables

/-!
# The states of the parser (`parser/bison_parser.output`)

What the states stand for, and that the tables fit the grammar : `valid_yyparse` and
`weighted_yyparse` are decided state by state and entry by entry. The tables are packed for this.
`outcome_yyparse` is what follows for the runs of the parser.
-/

namespace UhpSql

/-- The rules that are under way in a state : 100 times the number of the rule and the number of
symbols before the dot. -/
def kernels : List (List ℕ) :=
  [[], [8801], [9601], [3301, 3401], [3101], [4401], [4501, 4601, 4701, 4801, 4901], [9501], [3501],
   [9701, 9801], [10101], [9201], [3601, 4101], [8601, 8701, 8901], [4201, 4301], [28101], [2601],
   [2801], [2701], [101], [201, 401], [301], [601], [1901], [501], [1801], [801], [901], [701],
   [1101], [1601], [1701], [1301], [1401], [1201], [1501], [1001], [10501, 10601, 10701], [27901],
   [8802], [26701, 26801], [9602], [3302, 3402], [3102], [4402], [4802], [4502, 4602, 4702], [4902],
   [9502], [3502], [9702, 9802], [10102], [26601], [9202], [3602, 4102], [8902], [8602], [8702],
   [4302], [4202], [28401], [28102, 28301], [28201], [2901], [2602], [2802], [2702], [102],
   [402, 29901], [202], [2001], [602], [502], [12201], [11201, 11301], [10502, 10702], [10602],
   [11401, 11501], [8803], [26802], [3403], [3103], [5001], [4803], [4503, 4603, 4703], [4903],
   [9503], [3701], [3503], [9703, 9803], [10103], [9001], [9203], [3603], [4103], [8903], [8603],
   [8703], [4303], [28402], [28302], [403], [2002], [14301], [12202], [11302], [11202], [11801],
   [11901], [11701], [10703], [11601], [13501], [11502], [11402], [26803], [24501], [24801],
   [25001], [25201], [25101], [25401, 25501], [24601], [24701], [25601], [3404], [15301, 15601],
   [15501], [23801], [23901], [24001], [24901, 25301], [24101], [24201], [24301], [24401], [3201],
   [3104], [5002], [26901], [4804], [4504, 4604, 4704], [4904], [12901], [9504], [3504], [9901],
   [9704, 9804], [10401], [10104, 10301], [10201], [9002], [9204], [3604], [3801], [4104], [8904],
   [8604], [8704], [28403], [28303], [2003], [14302], [12301], [12203], [11303], [11203], [10704],
   [10901], [10801], [11001, 11101], [12001], [11602], [13502], [11503], [14601],
   [14501, 14701, 14801, 14901], [11403], [25202], [25402, 25502], [3405], [15602], [21701],
   [21801], [21901], [22001], [22101], [22201], [22301], [22401], [22501], [22601], [22701],
   [22801], [22901], [23001], [25302], [5003], [4805], [4505], [4705], [4605], [4905],
   [21301, 21401, 23401, 23501, 23701], [20401], [21501], [21601], [19801, 19901, 20001, 20101],
   [17701, 20501], [23101], [17601], [23601], [16301, 17301], [12902, 19201, 19301],
   [15801, 17801, 17901, 18001, 18201, 18301, 18401, 18501, 18601, 18701, 18801, 18901, 19001, 19101, 19401, 19501, 19601, 19701, 20601, 20701, 20801, 20901, 21001, 21101, 21201, 23201, 23301],
   [16501], [16601], [16701], [16001], [16201], [16801], [16101], [18101], [16901], [17001],
   [17101], [17201], [16401], [15901], [17401], [17501], [3505], [30101], [9902, 30201], [9705],
   [9805], [10402], [10302], [10105], [9401], [9205], [9301], [3901], [3605], [4105], [2401, 2501],
   [2004, 2301], [2201], [12204], [12501, 15201], [15101], [15701, 19201, 19301], [10705], [11102],
   [13503, 13801], [13701], [13901, 19201, 19301], [11504], [14602, 19201, 19301], [14802, 14902],
   [14502, 14702, 19201, 19301], [25403], [15603], [4806], [4506], [4706], [5601], [8401], [8501],
   [4606, 5301], [5201], [5401], [5501], [4906], [21302, 21402], [23502, 23702], [20402], [21502],
   [21602], [20201], [19201, 19301, 19802, 19902], [20002, 20102, 20301], [20502], [17701],
   [17702, 17801, 17901, 18001, 18201, 18301, 18401, 18501, 18601, 18701, 18801, 18901, 19001, 19101, 20601, 20701, 20801, 20901, 21001, 21101, 21201, 23201],
   [23102],
   [17602, 17801, 17901, 18001, 18201, 18301, 18401, 18501, 18601, 18701, 18801, 18901, 19001, 19101, 20601, 20701, 20801, 20901, 21001, 21101, 21201, 23201],
   [17302], [16302, 19201, 19301], [19202], [19302], [23302], [17802], [18802],
   [18902, 19502, 19702], [19402, 19602], [17902, 18002], [19102], [19002], [20602], [20702],
   [20802], [20902], [21002], [21102], [21202], [18302], [18202], [18502], [18402], [18602],
   [18702], [23202], [3506], [9903], [30202], [9706], [10403, 19201, 19301], [10303], [9402],
   [3902], [2502], [2005], [2302], [12801], [12205], [12601], [15202], [27601], [27501], [27701],
   [15702], [10706], [11103], [13802], [14101], [14001], [13902], [11505], [14903], [14703], [4807],
   [4507], [5801], [6501], [6301], [6101], [6401], [6201], [6001], [6601], [7001], [6901], [5901],
   [6701], [6801], [5701], [5602], [8402], [8502], [4607], [5302], [4907], [21303], [21403],
   [23503], [23703], [20403], [21503], [19201, 19301, 21603], [19201, 19301, 20202],
   [19803, 19903, 20301], [20103], [20302], [20003], [20503], [18902], [15201, 23103], [17303],
   [16303], [19201, 19203, 19301], [19201, 19301, 19303],
   [17801, 17901, 18001, 18201, 18301, 18401, 18501, 18601, 18701, 18801, 18901, 19001, 19101, 20601, 20701, 20801, 20901, 21001, 21101, 21201, 23201, 23303],
   [17801, 17901, 18001, 18201, 18301, 18401, 18501, 18601, 18701, 18801, 18803, 18901, 19001, 19101, 20601, 20701, 20801, 20901, 21001, 21101, 21201, 23201],
   [18903], [19503, 19703], [19403, 19603], [17903], [18003],
   [17801, 17901, 18001, 18201, 18301, 18401, 18501, 18601, 18701, 18801, 18901, 19001, 19101, 19103, 20601, 20701, 20801, 20901, 21001, 21101, 21201, 23201],
   [17801, 17901, 18001, 18201, 18301, 18401, 18501, 18601, 18701, 18801, 18901, 19001, 19003, 19101, 20601, 20701, 20801, 20901, 21001, 21101, 21201, 23201],
   [17801, 17901, 18001, 18201, 18301, 18401, 18501, 18601, 18701, 18801, 18901, 19001, 19101, 20601, 20603, 20701, 20801, 20901, 21001, 21101, 21201, 23201],
   [17801, 17901, 18001, 18201, 18301, 18401, 18501, 18601, 18701, 18801, 18901, 19001, 19101, 20601, 20701, 20703, 20801, 20901, 21001, 21101, 21201, 23201],
   [17801, 17901, 18001, 18201, 18301, 18401, 18501, 18601, 18701, 18801, 18901, 19001, 19101, 20601, 20701, 20801, 20803, 20901, 21001, 21101, 21201, 23201],
   [17801, 17901, 18001, 18201, 18301, 18401, 18501, 18601, 18701, 18801, 18901, 19001, 19101, 20601, 20701, 20801, 20901, 20903, 21001, 21101, 21201, 23201],
   [17801, 17901, 18001, 18201, 18301, 18401, 18501, 18601, 18701, 18801, 18901, 19001, 19101, 20601, 20701, 20801, 20901, 21001, 21003, 21101, 21201, 23201],
   [17801, 17901, 18001, 18201, 18301, 18401, 18501, 18601, 18701, 18801, 18901, 19001, 19101, 20601, 20701, 20801, 20901, 21001, 21101, 21103, 21201, 23201],
   [17801, 17901, 18001, 18201, 18301, 18401, 18501, 18601, 18701, 18801, 18901, 19001, 19101, 20601, 20701, 20801, 20901, 21001, 21101, 21201, 21203, 23201],
   [17801, 17901, 18001, 18201, 18301, 18303, 18401, 18501, 18601, 18701, 18801, 18901, 19001, 19101, 20601, 20701, 20801, 20901, 21001, 21101, 21201, 23201],
   [17801, 17901, 18001, 18201, 18203, 18301, 18401, 18501, 18601, 18701, 18801, 18901, 19001, 19101, 20601, 20701, 20801, 20901, 21001, 21101, 21201, 23201],
   [17801, 17901, 18001, 18201, 18301, 18401, 18501, 18503, 18601, 18701, 18801, 18901, 19001, 19101, 20601, 20701, 20801, 20901, 21001, 21101, 21201, 23201],
   [17801, 17901, 18001, 18201, 18301, 18401, 18403, 18501, 18601, 18701, 18801, 18901, 19001, 19101, 20601, 20701, 20801, 20901, 21001, 21101, 21201, 23201],
   [17801, 17901, 18001, 18201, 18301, 18401, 18501, 18601, 18603, 18701, 18801, 18901, 19001, 19101, 20601, 20701, 20801, 20901, 21001, 21101, 21201, 23201],
   [17801, 17901, 18001, 18201, 18301, 18401, 18501, 18601, 18701, 18703, 18801, 18901, 19001, 19101, 20601, 20701, 20801, 20901, 21001, 21101, 21201, 23201],
   [23203], [3507], [30203], [9707, 15601], [9403], [3903], [2503, 15601], [2303], [26201], [12802],
   [25701, 26301, 28501, 28601, 28701], [25901], [25801, 26401], [26101], [26501], [26001], [12206],
   [15203], [27502], [13803], [14904, 19201, 19301], [14704, 19201, 19301], [4808, 30201], [4508],
   [6502], [7301, 7401], [6102], [6402], [6602], [7101], [6802], [8001], [8101], [8201], [8301],
   [5603], [7601, 7901], [7801], [8403], [8503, 30201], [5303], [15201, 21404], [20404], [21504],
   [21604], [20203], [19904], [19804], [19201, 19301, 20104], [19201, 19301, 20303], [20504],
   [23104], [23304],
   [17801, 17901, 18001, 18201, 18301, 18401, 18501, 18601, 18701, 18801, 18901, 18904, 19001, 19101, 20601, 20701, 20801, 20901, 21001, 21101, 21201, 23201],
   [19504, 19704], [19604], [15201, 19404], [18004], [23204], [9708], [9404], [2504], [26202],
   [28502], [29601], [28801], [29401], [29101, 29201], [29301, 29501], [28901, 29001],
   [28602, 28702], [25802, 26402], [27201, 27501], [27301], [26502], [27101], [13101], [12207],
   [4809], [6503], [7302, 7402], [6403], [6603], [7102], [8002], [8302], [7902], [8404, 30201],
   [8504], [21405], [19201, 19301, 21505], [21605], [19201, 19301, 20204], [19201, 19301, 19905],
   [20105], [20304], [20505],
   [17801, 17901, 18001, 18201, 18301, 18401, 18501, 18601, 18701, 18801, 18901, 19001, 19101, 20601, 20701, 20801, 20901, 21001, 21101, 21201, 23201, 23305],
   [19705], [15201, 19505], [19605], [19405], [26203], [28503], [29102], [29302], [28902],
   [28603, 28703], [25803, 26403, 28501, 28601, 28701], [27202, 27502], [13102], [6504], [7403],
   [7303], [6404], [6604], [7103], [8405], [21506], [21606], [19906], [19201, 19301, 20305],
   [19706], [19506], [26204], [28504], [28501, 28601, 28604, 28701, 28704], [27203], [13103, 15201],
   [6505], [7304], [28705], [28605], [27204, 30201], [13301], [13104], [7305], [28706],
   [19201, 19301, 29801], [28606], [27205], [13302, 19201, 19301], [23401, 23501, 23701], [28707],
   [28708]]

/-- The symbols with a `go to` line in a state, and the start symbol in the first. -/
def heads : List (List ℕ) :=
  [
   [180, 181, 182, 183, 184, 188, 190, 192, 193, 197, 198, 199, 211, 213, 216, 217, 218, 220, 223, 291, 292],
   [], [285], [], [], [285], [], [], [], [], [284, 285], [], [285], [], [], [293, 294], [189],
   [189], [189], [], [298], [], [185], [], [185], [], [], [], [], [], [], [], [], [], [], [], [],
   [226, 227, 231], [], [], [], [], [], [], [], [200], [200], [200], [285], [194], [285], [], [],
   [212], [], [212], [212], [212], [285], [], [], [], [], [], [], [], [], [],
   [183, 184, 188, 190, 192, 193, 197, 198, 199, 211, 213, 216, 217, 218, 220, 223, 291, 292], [],
   [], [], [], [243], [226, 227, 231], [228, 229], [], [228, 229, 239], [], [],
   [246, 247, 270, 271, 272, 273, 274, 275, 276, 277, 278], [191], [], [286], [285], [285], [236],
   [], [], [219], [221, 222], [], [285], [195, 271], [195, 271], [], [285], [285], [], [226], [294],
   [], [], [274], [232], [], [], [], [], [], [224, 225, 226, 231], [230], [], [224, 225, 226, 231],
   [244], [], [], [], [], [], [], [], [], [], [], [], [], [], [], [], [], [263, 264, 265], [], [],
   [], [], [], [], [], [], [], [], [219],
   [249, 250, 251, 252, 253, 254, 255, 256, 258, 259, 260, 261, 262, 266, 267, 268, 269, 270, 271, 272, 273, 274, 275, 276, 277, 278],
   [], [195, 271], [299], [227, 231], [], [236], [], [], [214, 215], [196], [], [196], [], [], [],
   [], [], [186, 187], [], [],
   [233, 245, 248, 249, 250, 251, 252, 253, 254, 255, 256, 258, 259, 260, 261, 262, 266, 267, 268, 269, 270, 271, 272, 273, 274, 275, 276, 277, 278],
   [], [], [239], [], [], [228, 229], [], [],
   [240, 241, 249, 250, 251, 252, 253, 254, 255, 256, 258, 259, 260, 261, 262, 266, 267, 268, 269, 270, 271, 272, 273, 274, 275, 276, 277, 278],
   [239],
   [249, 250, 251, 252, 253, 254, 255, 256, 258, 259, 260, 261, 262, 266, 267, 268, 269, 270, 271, 272, 273, 274, 275, 276, 277, 278],
   [249, 250, 251, 252, 253, 254, 255, 256, 258, 259, 260, 261, 262, 266, 267, 268, 269, 270, 271, 272, 273, 274, 275, 276, 277, 278],
   [], [], [263], [], [270, 271, 272, 273, 274, 275, 276, 277, 278], [], [], [], [], [], [], [], [],
   [], [], [], [], [], [], [], [], [285], [], [223, 291, 292], [201, 202, 203, 210], [], [], [], [],
   [],
   [249, 250, 251, 252, 253, 254, 255, 256, 257, 258, 259, 260, 261, 262, 266, 267, 268, 269, 270, 271, 272, 273, 274, 275, 276, 277, 278],
   [250, 251, 252, 253, 256, 259, 260, 261, 262, 266, 267, 269, 270, 271, 272, 273, 274, 275, 276, 277, 278],
   [],
   [250, 251, 252, 253, 256, 259, 260, 261, 262, 266, 267, 269, 270, 271, 272, 273, 274, 275, 276, 277, 278],
   [],
   [227, 231, 249, 250, 251, 252, 253, 254, 255, 256, 258, 259, 260, 261, 262, 266, 267, 268, 269, 270, 271, 272, 273, 274, 275, 276, 277, 278],
   [], [], [], [], [], [], [], [], [], [], [], [], [], [], [], [], [], [], [], [], [], [], [],
   [249, 250, 251, 252, 253, 254, 255, 256, 258, 259, 260, 261, 262, 266, 267, 268, 269, 270, 271, 272, 273, 274, 275, 276, 277, 278],
   [222], [], [], [], [], [], [], [], [], [], [], [234, 235], [], [], [289, 290], [244],
   [224, 225, 226, 231], [], [], [242], [244], [], [], [], [], [], [], [], [], [204], [], [], [],
   [], [], [], [223, 291, 292], [232], [], [227, 231], [263],
   [249, 250, 251, 252, 253, 254, 255, 256, 258, 259, 260, 261, 262, 266, 267, 268, 269, 270, 271, 272, 273, 274, 275, 276, 277, 278],
   [249, 250, 251, 252, 253, 254, 255, 256, 258, 259, 260, 261, 262, 266, 267, 268, 269, 270, 271, 272, 273, 274, 275, 276, 277, 278],
   [257], [], [],
   [250, 251, 252, 253, 256, 259, 260, 261, 262, 266, 267, 269, 270, 271, 272, 273, 274, 275, 276, 277, 278],
   [],
   [245, 248, 249, 250, 251, 252, 253, 254, 255, 256, 258, 259, 260, 261, 262, 266, 267, 268, 269, 270, 271, 272, 273, 274, 275, 276, 277, 278],
   [], [], [],
   [249, 250, 251, 252, 253, 254, 255, 256, 258, 259, 260, 261, 262, 266, 267, 268, 269, 270, 271, 272, 273, 274, 275, 276, 277, 278],
   [249, 250, 251, 252, 253, 254, 255, 256, 258, 259, 260, 261, 262, 266, 267, 268, 269, 270, 271, 272, 273, 274, 275, 276, 277, 278],
   [250, 251, 252, 253, 256, 259, 260, 261, 262, 266, 267, 269, 270, 271, 272, 273, 274, 275, 276, 277, 278],
   [],
   [250, 251, 252, 253, 256, 259, 260, 261, 262, 266, 267, 269, 270, 271, 272, 273, 274, 275, 276, 277, 278],
   [], [], [],
   [250, 251, 252, 253, 256, 259, 260, 261, 262, 266, 267, 269, 270, 271, 272, 273, 274, 275, 276, 277, 278],
   [250, 251, 252, 253, 256, 259, 260, 261, 262, 266, 267, 269, 270, 271, 272, 273, 274, 275, 276, 277, 278],
   [250, 251, 252, 253, 256, 259, 260, 261, 262, 266, 267, 269, 270, 271, 272, 273, 274, 275, 276, 277, 278],
   [250, 251, 252, 253, 256, 259, 260, 261, 262, 266, 267, 269, 270, 271, 272, 273, 274, 275, 276, 277, 278],
   [250, 251, 252, 253, 256, 259, 260, 261, 262, 266, 267, 269, 270, 271, 272, 273, 274, 275, 276, 277, 278],
   [250, 251, 252, 253, 256, 259, 260, 261, 262, 266, 267, 269, 270, 271, 272, 273, 274, 275, 276, 277, 278],
   [250, 251, 252, 253, 256, 259, 260, 261, 262, 266, 267, 269, 270, 271, 272, 273, 274, 275, 276, 277, 278],
   [250, 251, 252, 253, 256, 259, 260, 261, 262, 266, 267, 269, 270, 271, 272, 273, 274, 275, 276, 277, 278],
   [250, 251, 252, 253, 256, 259, 260, 261, 262, 266, 267, 269, 270, 271, 272, 273, 274, 275, 276, 277, 278],
   [250, 251, 252, 253, 256, 259, 260, 261, 262, 266, 267, 269, 270, 271, 272, 273, 274, 275, 276, 277, 278],
   [250, 251, 252, 253, 256, 259, 260, 261, 262, 266, 267, 269, 270, 271, 272, 273, 274, 275, 276, 277, 278],
   [250, 251, 252, 253, 256, 259, 260, 261, 262, 266, 267, 269, 270, 271, 272, 273, 274, 275, 276, 277, 278],
   [250, 251, 252, 253, 256, 259, 260, 261, 262, 266, 267, 269, 270, 271, 272, 273, 274, 275, 276, 277, 278],
   [250, 251, 252, 253, 256, 259, 260, 261, 262, 266, 267, 269, 270, 271, 272, 273, 274, 275, 276, 277, 278],
   [250, 251, 252, 253, 256, 259, 260, 261, 262, 266, 267, 269, 270, 271, 272, 273, 274, 275, 276, 277, 278],
   [274], [285], [], [], [247, 270, 271, 272, 273, 274, 275, 276, 277, 278], [], [], [212], [194],
   [247, 270, 271, 272, 273, 274, 275, 276, 277, 278], [], [187],
   [279, 280, 281, 282, 283, 285, 295], [236], [],
   [248, 249, 250, 251, 252, 253, 254, 255, 256, 258, 259, 260, 261, 262, 266, 267, 268, 269, 270, 271, 272, 273, 274, 275, 276, 277, 278],
   [], [], [], [], [], [],
   [241, 249, 250, 251, 252, 253, 254, 255, 256, 258, 259, 260, 261, 262, 266, 267, 268, 269, 270, 271, 272, 273, 274, 275, 276, 277, 278],
   [], [], [], [],
   [249, 250, 251, 252, 253, 254, 255, 256, 258, 259, 260, 261, 262, 266, 267, 268, 269, 270, 271, 272, 273, 274, 275, 276, 277, 278],
   [249, 250, 251, 252, 253, 254, 255, 256, 258, 259, 260, 261, 262, 266, 267, 268, 269, 270, 271, 272, 273, 274, 275, 276, 277, 278],
   [299], [195, 271], [], [], [], [206], [], [], [], [], [], [], [], [], [205], [], [207, 208, 209],
   [], [299], [], [202, 203, 210], [], [],
   [245, 248, 249, 250, 251, 252, 253, 254, 255, 256, 258, 259, 260, 261, 262, 266, 267, 268, 269, 270, 271, 272, 273, 274, 275, 276, 277, 278],
   [], [], [], [], [], [], [],
   [249, 250, 251, 252, 253, 254, 255, 256, 258, 259, 260, 261, 262, 266, 267, 268, 269, 270, 271, 272, 273, 274, 275, 276, 277, 278],
   [249, 250, 251, 252, 253, 254, 255, 256, 258, 259, 260, 261, 262, 266, 267, 268, 269, 270, 271, 272, 273, 274, 275, 276, 277, 278],
   [], [227, 231], [], [], [], [], [], [], [], [],
   [250, 251, 252, 253, 256, 259, 260, 261, 262, 266, 267, 269, 270, 271, 272, 273, 274, 275, 276, 277, 278],
   [],
   [227, 231, 245, 248, 249, 250, 251, 252, 253, 254, 255, 256, 258, 259, 260, 261, 262, 266, 267, 268, 269, 270, 271, 272, 273, 274, 275, 276, 277, 278],
   [], [], [], [], [], [], [], [], [], [], [], [], [], [], [], [], [], [], [], [], [], [], [], [],
   [], [223, 291, 292], [], [296], [], [], [], [287, 288, 289], [], [237], [], [], [], [], [], [],
   [], [], [], [], [], [], [], [], [], [], [], [], [], [209], [], [299], [], [], [], [],
   [249, 250, 251, 252, 253, 254, 255, 256, 258, 259, 260, 261, 262, 266, 267, 268, 269, 270, 271, 272, 273, 274, 275, 276, 277, 278],
   [204],
   [249, 250, 251, 252, 253, 254, 255, 256, 258, 259, 260, 261, 262, 266, 267, 268, 269, 270, 271, 272, 273, 274, 275, 276, 277, 278],
   [249, 250, 251, 252, 253, 254, 255, 256, 258, 259, 260, 261, 262, 266, 267, 268, 269, 270, 271, 272, 273, 274, 275, 276, 277, 278],
   [], [], [], [], [],
   [250, 251, 252, 253, 256, 259, 260, 261, 262, 266, 267, 269, 270, 271, 272, 273, 274, 275, 276, 277, 278],
   [],
   [227, 231, 245, 248, 249, 250, 251, 252, 253, 254, 255, 256, 258, 259, 260, 261, 262, 266, 267, 268, 269, 270, 271, 272, 273, 274, 275, 276, 277, 278],
   [], [], [], [], [], [], [], [], [], [], [], [], [], [], [], [], [280, 281, 283, 285, 295], [],
   [], [], [], [], [], [], [], [], [], [], [], [], [], [], [], [], [], [], [], [], [], [],
   [249, 250, 251, 252, 253, 254, 255, 256, 258, 259, 260, 261, 262, 266, 267, 268, 269, 270, 271, 272, 273, 274, 275, 276, 277, 278],
   [], [], [], [], [], [], [287, 288, 289], [281, 283, 285], [], [], [], [280, 281, 283, 285, 295],
   [296], [],
   [245, 248, 249, 250, 251, 252, 253, 254, 255, 256, 258, 259, 260, 261, 262, 266, 267, 268, 269, 270, 271, 272, 273, 274, 275, 276, 277, 278],
   [], [], [], [], [], [], [], [], [], [], [], [], [], [], [], [296], [299], [238], [], [], [],
   [249, 250, 251, 252, 253, 254, 255, 256, 258, 259, 260, 261, 262, 266, 267, 268, 269, 270, 271, 272, 273, 274, 275, 276, 277, 278, 297],
   [],
   [249, 250, 251, 252, 253, 254, 255, 256, 258, 259, 260, 261, 262, 266, 267, 268, 269, 270, 271, 272, 273, 274, 275, 276, 277, 278],
   [], [], [269], [], [], [], [], [], [], []]

/-- The states with an entry in `yypact`, from the least one, -87, on. -/
def bases : List (List ℕ) :=
  [[403], [], [], [], [], [], [], [], [], [], [], [], [], [288], [], [], [], [], [],
   [213, 258, 317, 424, 425, 496, 525, 542, 545], [], [], [], [], [], [], [], [], [], [], [], [370],
   [294], [], [], [], [], [], [54], [], [], [149], [], [296], [281], [], [], [141], [], [], [], [],
   [], [256], [], [], [], [], [], [], [], [], [], [532], [37, 74, 110, 113, 253], [], [], [], [],
   [], [], [], [], [], [], [], [], [], [], [], [], [], [], [], [], [], [], [], [], [], [], [], [],
   [274], [], [203], [], [], [], [275], [541], [], [], [], [260], [14], [251], [324, 475, 507, 511],
   [], [357, 440], [], [114, 252, 257], [], [], [], [418, 506], [], [], [], [], [], [], [201, 361],
   [], [80, 181, 316, 321], [], [494], [], [], [], [], [452], [], [], [], [], [], [], [16, 17, 18],
   [], [], [377], [], [400, 401, 402], [], [], [], [9], [77], [], [], [453], [1], [147], [], [7],
   [], [], [20], [], [], [40], [], [], [], [530], [], [], [], [], [], [], [], [42],
   [2, 5, 10, 12, 48, 50, 58, 84, 85, 92, 96, 97, 198, 313], [], [], [], [], [], [], [], [8], [],
   [], [], [], [], [], [], [], [6], [], [], [], [], [280], [], [], [], [], [], [], [], [],
   [286, 398, 399], [], [], [233], [13], [246], [], [], [22, 24], [3], [], [75, 170], [179, 277],
   [369], [], [61], [], [], [], [], [11], [], [], [269], [4], [497], [414], [], [], [], [371], [],
   [], [], [], [45, 46, 47], [], [], [], [], [], [], [176], [], [], [], [89, 142], [], [], [407],
   [410], [], [51], [53, 55, 56, 57, 319], [], [], [426], [], [443], [], [], [60], [445], [], [460],
   [], [], [43], [], [], [], [73], [], [], [484], [], [], [], [], [], [], [491], [82], [15, 100],
   [99], [], [70], [], [], [105], [503], [537], [], [], [], [], [102], [], [], [], [], [106], [],
   [], [], [], [], [19], [], [], [], [], [207], [], [], [125], [126], [], [88], [], [], [], [], [],
   [], [], [], [], [39], [], [], [], [], [204], [], [], [], [86, 325], [205], [], [], [], [206], [],
   [148], [209], [234], [], [245], [], [], [249], [512], [254], [], [], [], [], [263], [],
   [212, 386, 458], [], [112], [268], [282], [], [], [140], [287], [], [49, 320], [295], [111],
   [346], [], [347], [350], [355], [], [358], [], [], [202], [], [79], [367], [], [], [], [], [91],
   [153, 155], [], [], [200, 273, 412], [], [81], [404], [385], [], [83], [389], [416], [], [],
   [428], [], [],
   [143, 164, 173, 175, 236, 278, 279, 285, 289, 290, 327, 334, 339, 340, 364, 372, 373, 447, 449, 450, 499, 514, 536, 538],
   [], [152], [], [], [], [], [], [], [267], [454], [459], [466], [231], [], [90, 237], [], [], [],
   [167, 174], [], [], [248], [485], [486], [487], [495], [502], [], [93, 94, 145, 342], [513],
   [515], [95], [535], [103, 312], [264], [534], [104], [547], [381], [546], [], [], [138], [], [],
   [], [], [], [], [], [], [], [368], [], [376], [], [388], [], [], [208], [], [], [435], [], [242],
   [], [], [], [],
   [210, 283, 291, 293, 297, 298, 299, 300, 301, 302, 303, 304, 305, 306, 307, 308, 309, 310, 311, 384, 456],
   [259], [480], [239], [], [276, 375], [119], [121], [], [], [438], [], [], [], [], [], [467],
   [146, 341, 359, 442, 531], [], [], [161, 323], [], [], [199], [474], [], [], [], [], [], [],
   [420], [], [], [], [], [], [], [344], [], [], [471], [472], [], [473], [], [], [], [], [], [],
   [], [], [214], [], [], [], [266, 448], [], [], [], [315], [], [329], [], [], [], [], [], [], [],
   [], [], [], [], [], [], [], [], [], [], [], [], [], [], [], [], [], [], [], [], [], [], [], [],
   [408], [], [], [], [429], [], [431], [432], [], [], [433], [], [], [], [], [], [], [], [], [],
   [], [], [], [], [], [483], [476], [], [], [], [], [], [], [], [517], [], [], [], [], [], [], [],
   [], [], [], [], [], [], [], [], [], [], [], [], [], [], [], [], [], [], [], [], [], [], [], [],
   [], [], [], [], [], [], [], [], [], [], [], [], [], [], [], [], [], [], [], [], [], [], [], [],
   [], [], [], [], [], [], [68], [], [], [], [], [], [382], [], [], [], [], [], [], [], [], [], [],
   [], [], [], [], [], [], [], [], [], [], [], [], [], [], [0], [], [], [], [], [], [], [], [], [],
   [], [], [], [], [], [], [], [], [], [], [], [], [], [], [], [], [], [], [284, 501], [], [], [],
   [], [], [], [], [], [], [], [], [], [], [], [], [], [], [383, 390, 391, 392, 393, 457], [], [],
   [], [], [], [], [], [], [], [], [], [], [], [], [], [], [], [], [], [], [], [], [], [], [], [],
   [], [], [], [], [], [], [], [], [], [], [], [], [], [], [], [], [], [], [], [], [], [], [131],
   [394, 395, 396, 397]]

def items : Lr.Items Symbol where
  kernel q n d := d < 100 ∧ 100 * n + d ∈ kernels.getD q []
  heads p X := X.num ∈ heads.getD p []

/-! ## Packed tables -/

/-- An entry of a table. -/
def natAt (t : List ℕ) (i : ℕ) : ℕ :=
  Packed.nth 16 (Packed.pack 16 t) i

/-- An entry of a table from -400 on. -/
def intAt (t : List ℤ) (i : ℕ) : ℤ :=
  natAt (t.map fun a => (a + 400).toNat) i - 400

def kernelAt (q : ℕ) : List ℕ :=
  Packed.row 16 27 (Packed.packRows 16 27 kernels) q

def headsAt (p : ℕ) : List ℕ :=
  Packed.row 16 46 (Packed.packRows 16 46 heads) p

/-- The states of an entry of `bases`, each as one more than its number. -/
def basesAt (i : ℕ) : List ℕ :=
  Packed.row 16 24 (Packed.packRows 16 24 (bases.map fun l => l.map (· + 1))) i

/-- A symbol of a right-hand side, as one more than its number, and 0 where there is none. -/
def symbolAt (n d : ℕ) : ℕ :=
  Packed.nth 16 (Packed.nth 144 (Packed.packRows 16 9
    ([] :: rules.map fun r => r.rhs.map fun X => X.num + 1)) n) d

/-! ## Weights -/

/-- The weights of the symbols that are not tokens. They grow towards the tokens. -/
def weights : List ℕ :=
  [0, 0, 1, 3, 4, 0, 0, 1, 6, 0, 4, 0, 6, 4, 0, 0, 0, 4, 4, 6, 0, 0, 1, 2, 0, 0, 0, 0, 1, 2, 2, 6,
   0, 6, 0, 1, 6, 6, 6, 0, 6, 0, 3, 6, 0, 3, 3, 0, 0, 1, 0, 4, 0, 0, 0, 3, 0, 0, 0, 0, 0, 1, 0, 0,
   0, 4, 0, 1, 6, 7, 9, 10, 10, 10, 9, 9, 10, 0, 9, 11, 10, 10, 10, 1, 1, 0, 10, 10, 9, 11, 11, 12,
   12, 12, 13, 12, 12, 12, 12, 0, 1, 3, 0, 4, 0, 5, 0, 1, 0, 2, 0, 7, 8, 0, 1, 3, 0, 0, 0, 0]

def weight (X : Symbol) : ℕ :=
  if X.num < YYNTOKENS then 15 else natAt weights (X.num - YYNTOKENS)

/-- States in which something empty may come next have slack. -/
def slacks : List ℕ :=
  [8, 0, 0, 0, 0, 0, 0, 0, 0, 0, 0, 0, 0, 0, 0, 0, 1, 1, 1, 0, 1, 0, 1, 0, 1, 0, 0, 0, 0, 0, 0, 0,
   0, 0, 0, 0, 0, 0, 0, 0, 0, 0, 0, 0, 0, 2, 2, 2, 0, 0, 0, 0, 0, 1, 0, 1, 1, 1, 0, 0, 0, 0, 0, 0,
   0, 0, 0, 0, 8, 0, 0, 0, 0, 2, 0, 0, 0, 2, 0, 0, 1, 0, 0, 1, 0, 0, 2, 0, 0, 1, 0, 0, 0, 0, 0, 0,
   0, 0, 0, 0, 0, 0, 0, 0, 1, 0, 0, 0, 0, 0, 0, 1, 0, 0, 1, 0, 0, 0, 0, 0, 0, 0, 0, 0, 0, 0, 0, 0,
   0, 0, 0, 0, 0, 0, 0, 0, 0, 0, 0, 0, 0, 0, 1, 0, 0, 0, 0, 0, 0, 2, 0, 0, 0, 1, 0, 1, 0, 0, 0, 0,
   0, 0, 0, 0, 0, 0, 0, 2, 0, 0, 0, 0, 0, 0, 2, 0, 0, 0, 0, 0, 0, 0, 0, 0, 0, 0, 0, 0, 0, 0, 0, 0,
   0, 0, 0, 0, 0, 0, 0, 0, 8, 0, 0, 0, 0, 0, 0, 0, 0, 0, 0, 0, 0, 0, 0, 0, 0, 0, 0, 0, 0, 0, 0, 0,
   0, 0, 0, 0, 0, 0, 0, 0, 0, 0, 0, 0, 0, 0, 0, 0, 0, 0, 0, 0, 0, 0, 0, 0, 3, 0, 0, 1, 1, 0, 0, 0,
   1, 1, 0, 0, 0, 0, 0, 0, 0, 0, 0, 0, 0, 0, 0, 0, 0, 8, 1, 0, 0, 0, 0, 0, 0, 0, 0, 0, 0, 0, 0, 0,
   0, 0, 0, 0, 0, 0, 0, 0, 0, 0, 0, 0, 0, 0, 0, 0, 0, 0, 0, 0, 0, 0, 0, 0, 0, 0, 0, 0, 0, 0, 0, 1,
   0, 0, 0, 0, 0, 2, 0, 0, 0, 0, 0, 0, 0, 0, 0, 0, 0, 0, 0, 0, 0, 0, 0, 0, 0, 0, 1, 0, 0, 0, 0, 0,
   0, 0, 0, 1, 0, 1, 0, 0, 0, 0, 0, 0, 0, 0, 0, 0, 0, 0, 0, 0, 0, 0, 0, 0, 0, 0, 0, 0, 0, 0, 0, 0,
   0, 0, 0, 0, 0, 0, 0, 0, 0, 0, 0, 0, 0, 0, 0, 0, 0, 0, 0, 0, 0, 0, 0, 0, 0, 0, 0, 0, 8, 0, 1, 0,
   0, 0, 1, 0, 1, 0, 0, 0, 0, 0, 0, 0, 0, 0, 0, 0, 0, 0, 0, 0, 0, 0, 0, 0, 0, 0, 0, 0, 0, 0, 0, 0,
   0, 0, 0, 0, 0, 0, 0, 0, 0, 0, 0, 0, 0, 0, 0, 0, 0, 0, 0, 0, 0, 0, 0, 0, 0, 0, 0, 0, 0, 0, 0, 0,
   0, 0, 0, 0, 0, 0, 0, 0, 0, 0, 0, 0, 0, 0, 0, 0, 0, 0, 0, 0, 0, 0, 0, 0, 0, 0, 1, 0, 0, 0, 0, 0,
   1, 0, 0, 0, 0, 0, 0, 0, 0, 0, 0, 0, 0, 0, 0, 0, 0, 0, 1, 0, 1, 0, 0, 0, 0, 0, 0, 0, 0, 0, 0, 0,
   0, 0, 0, 0, 0]

def slack (state : ℕ) : ℕ :=
  natAt slacks state

/-- The greatest slack after a symbol. -/
def peaks : List ℕ :=
  [0, 0, 1, 0, 1, 0, 0, 0, 0, 0, 1, 0, 0, 0, 0, 1, 0, 0, 0, 0, 1, 0, 0, 0, 1, 0, 0, 0, 0, 0, 0, 0,
   0, 0, 0, 0, 0, 0, 0, 0, 0, 2, 0, 0, 2, 0, 0, 0, 0, 1, 0, 2, 0, 3, 2, 0, 1, 0, 0, 1, 0, 0, 0, 1,
   0, 1, 0, 0, 0, 1, 0, 0, 0, 0, 0, 0, 0, 0, 0, 0, 0, 0, 0, 0, 0, 0, 0, 0, 0, 0, 0, 0, 0, 0, 0, 0,
   0, 0, 0, 0, 1, 0, 0, 0, 0, 2, 0, 0, 0, 0, 0, 0, 0, 0, 0, 0, 0, 0, 0, 0]

def ruleWeight (n : ℕ) : ℕ :=
  natAt (0 :: rules.map fun r => (r.rhs.map weight).sum) n

/-! ## Checks -/

/-- The item is one of the state. -/
def hasOk (p item : ℕ) : Bool :=
  match item % 100 with
  | 0 => (headsAt p).elem (natAt yyr1 (item / 100))
  | _ + 1 => (kernelAt p).elem item

/-- The items of a state are those of the state before it, a symbol further. -/
def edgeOk (p X q : ℕ) : Bool :=
  q != 0 && (kernelAt q).all fun item =>
    match item % 100 with
    | 0 => false
    | d + 1 => (symbolAt (item / 100) d).beq (X + 1) && hasOk p (item - 1)

def gotoAt (p X : ℕ) : ℕ :=
  let i := intAt yypgoto (X - YYNTOKENS) + p
  if 0 ≤ i ∧ i ≤ YYLAST ∧ intAt yycheck i.toNat = p then (intAt yytable i.toNat).toNat
  else (intAt yydefgoto (X - YYNTOKENS)).toNat

def headOk (p X : ℕ) : Bool :=
  if X = 180 then p == 0
  else (180).ble X && X.ble 299 && edgeOk p X (gotoAt p X) && gotoAt p X != YYFINAL &&
    (slack (gotoAt p X)).ble (natAt peaks (X - YYNTOKENS))

def reduceOk (p n : ℕ) : Bool :=
  (2).ble n && n.ble 302 && hasOk p (100 * n + natAt yyr2 n) && (180).ble (natAt yyr1 n) &&
    (natAt weights (natAt yyr1 n - YYNTOKENS) + natAt peaks (natAt yyr1 n - YYNTOKENS) + 1).ble
      (ruleWeight n + slack p)

def entryOk (p t : ℕ) (n : ℤ) : Bool :=
  if 0 < n then edgeOk p t n.toNat && (n.toNat == YYFINAL) == (t == 0)
  else n == YYTABLE_NINF || reduceOk p (-n).toNat

/-- What is checked at an index of the table : it is an entry of the states that begin as many
places before it as its token has a number. -/
def indexOk (i : ℕ) : Bool :=
  let t := intAt yycheck i
  !(decide (0 ≤ t) && t.toNat.blt YYNTOKENS && t.toNat.ble (i + 87)) ||
    (basesAt (i + 87 - t.toNat)).all fun p =>
      (p - 1).beq YYFINAL || entryOk (p - 1) t.toNat (intAt yytable i)

def stateOk (p : ℕ) : Bool :=
  (p.beq YYFINAL || (natAt yydefact p).beq 0 || reduceOk p (natAt yydefact p)) &&
    (headsAt p).all (headOk p) &&
    (intAt yypact p == YYPACT_NINF || decide (-87 ≤ intAt yypact p) && (basesAt (intAt yypact p + 87).toNat).elem (p + 1))

/-! ## What the packed tables are -/

/-- The entries fit. -/
theorem tables_lt : (∀ a ∈ yyr1, a < 2 ^ 16) ∧ (∀ a ∈ yyr2, a < 2 ^ 16) ∧
    (∀ a ∈ yydefact, a < 2 ^ 16) ∧ (∀ a ∈ slacks, a ≤ 8) ∧
    (∀ a ∈ 0 :: rules.map fun r => (r.rhs.map weight).sum, a < 2 ^ 16) := by
  decide +kernel

theorem signed_lt : ∀ t ∈ [yypact, yycheck, yytable, yypgoto, yydefgoto],
    ∀ a ∈ t, -400 ≤ a ∧ a < 1000 := by
  decide +kernel

/-- The lists of the states and the right-hand sides of the rules fit too. -/
theorem rows_lt : (∀ l ∈ kernels, l.length ≤ 27 ∧ ∀ a ∈ l, a < 2 ^ 16) ∧
    (∀ l ∈ heads, l.length ≤ 46 ∧ ∀ a ∈ l, a < 2 ^ 16) ∧
    (∀ l ∈ [] :: rules.map fun r => r.rhs.map fun X => X.num + 1,
      l.length ≤ 9 ∧ ∀ a ∈ l, a < 2 ^ 16) ∧
    ∀ t ∈ [kernels, heads], ∀ l ∈ t, ∀ a ∈ l, a ≠ 0 := by
  decide +kernel

theorem lengths : rules.length = 302 ∧ heads.length = 549 ∧ yypact.length = 549 ∧
    yydefact.length = 549 ∧ yycheck.length = 887 ∧ yytable.length = 887 ∧
    yypgoto.length = 120 ∧ yydefgoto.length = 120 := by
  decide +kernel

/-- An entry is read with a shift. -/
theorem natAt_eq {t : List ℕ} (h : ∀ a ∈ t, a < 2 ^ 16) (i : ℕ) : natAt t i = t.getD i 0 :=
  Packed.nth_pack h i

theorem intAt_eq {t : List ℤ} (h : ∀ a ∈ t, -400 ≤ a ∧ a < 1000) {i : ℕ} (hi : i < t.length)
    (d : ℤ) : intAt t i = t.getD i d := by
  have hlt : ∀ a ∈ t.map fun a => (a + 400).toNat, a < 2 ^ 16 := by
    intro n hn
    obtain ⟨a, ha, rfl⟩ := List.mem_map.1 hn
    have := (h a ha).2
    omega
  have hle := (h _ (List.getElem_mem hi)).1
  rw [intAt, natAt_eq hlt, List.getD_eq_getElem?_getD, List.getElem?_map,
    List.getD_eq_getElem?_getD, List.getElem?_eq_getElem hi, Option.map_some, Option.getD_some,
    Option.getD_some]
  omega

theorem kernelAt_eq (q : ℕ) : kernelAt q = kernels.getD q [] :=
  Packed.row_packRows rows_lt.1 (rows_lt.2.2.2 kernels (by simp)) q

theorem headsAt_eq (p : ℕ) : headsAt p = heads.getD p [] :=
  Packed.row_packRows rows_lt.2.1 (rows_lt.2.2.2 heads (by simp)) p

/-- A table with an entry for every rule has no rule at its first place. -/
theorem getElem?_of_rule {α : Type} {t : List α} {f : SqlRule → α} (ht : rules.map f = t.tail)
    {n : ℕ} {r : SqlRule} (hr : rule n = some r) : t[n]? = some (f r) := by
  cases n with
  | zero => cases hr
  | succ n =>
    rw [← List.getElem?_tail, ← ht, List.getElem?_map, show rules[n]? = some r from hr,
      Option.map_some]

theorem yyr1_eq {n : ℕ} {r : SqlRule} (hr : rule n = some r) : natAt yyr1 n = r.lhs.num := by
  rw [natAt_eq tables_lt.1, List.getD_eq_getElem?_getD, getElem?_of_rule num_lhs_rules hr,
    Option.getD_some]

theorem yyr2_eq {n : ℕ} {r : SqlRule} (hr : rule n = some r) :
    natAt yyr2 n = r.rhs.length := by
  rw [natAt_eq tables_lt.2.1, List.getD_eq_getElem?_getD, getElem?_of_rule length_rhs_rules hr,
    Option.getD_some]

theorem exists_rule {n : ℕ} (h₀ : n ≠ 0) (hn : n ≤ 302) : ∃ r, rule n = some r := by
  obtain ⟨n, rfl⟩ := Nat.exists_eq_add_one_of_ne_zero h₀
  exact ⟨_, List.getElem?_eq_getElem (lengths.1 ▸ hn)⟩

/-- What `rows_lt` says of the right-hand side of one rule. -/
theorem rhs_lt {n : ℕ} {r : SqlRule} (hr : rule n = some r) :
    r.rhs.length ≤ 9 ∧ ∀ a ∈ r.rhs.map fun X => X.num + 1, a < 2 ^ 16 := by
  have hget : ([] :: rules.map fun r => r.rhs.map fun X => X.num + 1)[n]? =
      some (r.rhs.map fun X => X.num + 1) :=
    getElem?_of_rule List.tail_cons.symm hr
  have hrow := rows_lt.2.2.1 _ (List.mem_of_getElem? hget)
  rw [List.length_map] at hrow
  exact hrow

/-- The symbols of right-hand sides are packed. -/
theorem rule_of_symbolAt {n d : ℕ} {X : Symbol} (h : symbolAt n d = X.num + 1) :
    ∃ r, rule n = some r ∧ r.rhs[d]? = some X := by
  rw [symbolAt, show 144 = 16 * 9 from rfl, Packed.nth_packRows rows_lt.2.2.1] at h
  have hnil : Packed.nth 16 (Packed.pack 16 []) d = 0 :=
    Packed.nth_pack (fun a ha => absurd ha List.not_mem_nil) d
  cases n with
  | zero => exact absurd (hnil.symm.trans h) (Nat.succ_ne_zero _).symm
  | succ n =>
    rw [List.getD_cons_succ, List.getD_eq_getElem?_getD, List.getElem?_map] at h
    cases hr : rules[n]? with
    | none =>
      rw [hr] at h
      exact absurd (hnil.symm.trans h) (Nat.succ_ne_zero _).symm
    | some r =>
      rw [hr, Option.map_some, Option.getD_some, Packed.nth_pack, List.getD_eq_getElem?_getD,
        List.getElem?_map] at h
      · cases hX : r.rhs[d]? with
        | none =>
          rw [hX] at h
          exact absurd h (Nat.succ_ne_zero _).symm
        | some Y =>
          rw [hX] at h
          exact ⟨r, hr, Symbol.num_inj (Nat.succ.inj h) ▸ hX⟩
      · exact (rhs_lt (n := n + 1) hr).2

theorem ruleWeight_eq {n : ℕ} {r : SqlRule} (hr : rule n = some r) :
    ruleWeight n = (r.rhs.map weight).sum := by
  rw [ruleWeight, natAt_eq tables_lt.2.2.2.2, List.getD_eq_getElem?_getD,
    getElem?_of_rule List.tail_cons.symm hr, Option.getD_some]

theorem yydefact_eq (p : ℕ) : natAt yydefact p = yydefact.getD p 0 :=
  natAt_eq tables_lt.2.2.1 p

theorem yypact_eq {p : ℕ} (hp : p < 549) (d : ℤ) : intAt yypact p = yypact.getD p d :=
  intAt_eq (signed_lt yypact (by simp)) (lengths.2.2.1 ▸ hp) d

theorem yycheck_eq {i : ℕ} (hi : i < 887) (d : ℤ) : intAt yycheck i = yycheck.getD i d :=
  intAt_eq (signed_lt yycheck (by simp)) (lengths.2.2.2.2.1 ▸ hi) d

theorem yytable_eq {i : ℕ} (hi : i < 887) (d : ℤ) : intAt yytable i = yytable.getD i d :=
  intAt_eq (signed_lt yytable (by simp)) (lengths.2.2.2.2.2.1 ▸ hi) d

theorem gotoAt_eq {p X : ℕ} (hX : 180 ≤ X) (hlast : X ≤ 299) : gotoAt p X = goto p X := by
  obtain ⟨hpgoto, hdefgoto⟩ := lengths.2.2.2.2.2.2
  have hi : X - YYNTOKENS < 120 := by
    rw [YYNTOKENS]
    omega
  rw [gotoAt, goto, intAt_eq (signed_lt yypgoto (by simp)) (hpgoto ▸ hi) 0,
    intAt_eq (signed_lt yydefgoto (by simp)) (hdefgoto ▸ hi) 0]
  generalize yypgoto.getD (X - YYNTOKENS) 0 + (p : ℤ) = i
  have hbound : 0 ≤ i ∧ i ≤ YYLAST → i.toNat < 887 := by
    rw [YYLAST]
    omega
  by_cases h : 0 ≤ i ∧ i ≤ YYLAST
  · simp only [h, true_and, yycheck_eq (hbound h) (-1), yytable_eq (hbound h) 0]
  · rw [if_neg fun h' => h ⟨h'.1, h'.2.1⟩, if_neg fun h' => h ⟨h'.1, h'.2.1⟩]

theorem slack_eq (p : ℕ) : slack p = slacks.getD p 0 :=
  natAt_eq (fun a ha => Nat.lt_of_le_of_lt (tables_lt.2.2.2.1 a ha) (by decide)) p

/-- No state has more slack than 8. -/
theorem slack_le (p : ℕ) : slack p ≤ 8 := by
  rw [slack_eq, List.getD_eq_getElem?_getD]
  cases h : slacks[p]? with
  | none => exact Nat.zero_le 8
  | some a => exact tables_lt.2.2.2.1 a (List.mem_of_getElem? h)

/-- Every rule but the first makes a symbol of the grammar. -/
theorem lhs_rule {n : ℕ} {r : SqlRule} (hr : rule n = some r) :
    r.lhs ≠ .YYEOF ∧ (n ≠ 1 → r.lhs ≠ .accept) := by
  have hmem : Symbol.YYEOF.num ∉ yyr1.tail ∧ Symbol.accept.num ∉ yyr1.tail.tail := by
    decide
  obtain ⟨heof, haccept⟩ := hmem
  cases n with
  | zero => cases hr
  | succ n =>
    have hget : yyr1.tail[n]? = some r.lhs.num := by
      rw [List.getElem?_tail, getElem?_of_rule num_lhs_rules hr]
    refine ⟨fun h => heof (h ▸ List.mem_of_getElem? hget), fun hn h => haccept ?_⟩
    obtain ⟨n, rfl⟩ := Nat.exists_eq_add_one_of_ne_zero fun h => hn (congrArg (· + 1) h)
    rw [← List.getElem?_tail] at hget
    exact h ▸ List.mem_of_getElem? hget

/-- There are no states from 549 on. -/
theorem lt_of_heads {p : ℕ} {X : Symbol} (hX : items.heads p X) : p < 549 := by
  have hlength := lengths.2.1
  by_contra hp
  have hX : X.num ∈ heads.getD p [] := hX
  rw [List.getD_eq_getElem?_getD, List.getElem?_eq_none (by omega)] at hX
  cases hX

/-- There are no states from 549 on, and they would do nothing. -/
theorem action_of_le {p : ℕ} (hp : 549 ≤ p) (t : Symbol) : action p t = .error := by
  obtain ⟨hlpact, hldefact, -⟩ := lengths.2.2
  have hpact : yypact.getD p YYPACT_NINF = YYPACT_NINF := by
    rw [List.getD_eq_getElem?_getD, List.getElem?_eq_none (hlpact ▸ hp), Option.getD_none]
  have hdefact : yydefact.getD p 0 = 0 := by
    rw [List.getD_eq_getElem?_getD, List.getElem?_eq_none (hldefact ▸ hp), Option.getD_none]
  dsimp only [action]
  rw [if_pos (Or.inl hpact), defaultAction, hdefact]

/-! ## The tables fit the grammar -/

/-- An item is in the kernel, or begins with a symbol that the state goes on with. -/
theorem has_of_hasOk {p n d : ℕ} {r : SqlRule} (hr : rule n = some r) (hd : d < 100)
    (h : hasOk p (100 * n + d) = true) : items.Has p r n d := by
  have hmod : (100 * n + d) % 100 = d := by omega
  have hdiv : (100 * n + d) / 100 = n := by omega
  rw [hasOk, hmod, hdiv] at h
  cases d with
  | zero =>
    rw [List.elem_iff, headsAt_eq, yyr1_eq hr] at h
    exact h
  | succ d =>
    rw [List.elem_iff, kernelAt_eq] at h
    exact ⟨hd, h⟩

/-- What is under way after a symbol was under way before it. -/
theorem edge_of_edgeOk {p q : ℕ} {X : Symbol} (h : edgeOk p X.num q = true) :
    items.Edge yyparse p X q := by
  rw [edgeOk, Bool.and_eq_true, bne_iff_ne, List.all_eq_true, kernelAt_eq] at h
  refine ⟨h.1, fun n d hmem => ?_⟩
  obtain ⟨hd, hmem⟩ := hmem
  have hitem := h.2 _ hmem
  have hmod : (100 * n + d) % 100 = d := by omega
  have hdiv : (100 * n + d) / 100 = n := by omega
  rw [hmod, hdiv] at hitem
  cases d with
  | zero => cases hitem
  | succ d =>
    rw [Bool.and_eq_true] at hitem
    obtain ⟨r, hr, hX⟩ := rule_of_symbolAt (Nat.eq_of_beq_eq_true hitem.1)
    exact ⟨r, d, hr, rfl, hX, has_of_hasOk hr (Nat.lt_of_succ_lt hd) hitem.2⟩

/-- A rule is done in the states that reduce by it, and its symbol weighs less than its right-hand
side. -/
theorem rule_of_reduceOk {p n : ℕ} (h : reduceOk p n = true) : n ≠ 1 ∧ ∃ r, rule n = some r ∧
    items.Has p r n r.rhs.length ∧
    weight r.lhs + natAt peaks (r.lhs.num - YYNTOKENS) < (r.rhs.map weight).sum + slack p := by
  simp only [reduceOk, Bool.and_eq_true, Nat.ble_eq] at h
  obtain ⟨⟨⟨⟨hn, hlast⟩, hhas⟩, hlhs⟩, hweight⟩ := h
  obtain ⟨r, hr⟩ := exists_rule (Nat.ne_of_gt (Nat.lt_of_succ_lt hn)) hlast
  rw [yyr1_eq hr] at hlhs hweight
  rw [yyr2_eq hr] at hhas
  rw [ruleWeight_eq hr] at hweight
  have hlength : r.rhs.length ≤ 9 := (rhs_lt hr).1
  have hlight : weight r.lhs = natAt weights (r.lhs.num - YYNTOKENS) :=
    if_neg (Nat.not_lt.2 hlhs)
  refine ⟨Nat.ne_of_gt hn, r, hr, has_of_hasOk hr (by omega) hhas, ?_⟩
  rw [hlight]
  exact Nat.lt_of_succ_le hweight

theorem stateOk_lt : (List.range 549).all stateOk = true := by
  decide +kernel

theorem indexOk_lt : (List.range 887).all indexOk = true := by
  decide +kernel

theorem stateOk_of_lt {p : ℕ} (hp : p < 549) : stateOk p = true :=
  List.all_eq_true.1 stateOk_lt p (List.mem_range.2 hp)

theorem headOk_of_heads {p : ℕ} {X : Symbol} (hX : items.heads p X) : headOk p X.num = true := by
  have h := stateOk_of_lt (lt_of_heads hX)
  rw [stateOk, Bool.and_eq_true, Bool.and_eq_true, headsAt_eq] at h
  exact List.all_eq_true.1 h.1.2 X.num hX

/-- The first rule begins in the first state only. -/
theorem eq_zero_of_heads {p : ℕ} (h : items.heads p .accept) : p = 0 := by
  have haccept : headOk p 180 = (p == 0) := if_pos rfl
  have hhead := headOk_of_heads h
  rw [show Symbol.accept.num = 180 from rfl, haccept] at hhead
  exact beq_iff_eq.1 hhead

/-- Where a symbol that is not the start symbol leads. -/
theorem goto_of_heads {p : ℕ} {X : Symbol} (hX : items.heads p X) (hne : X ≠ .accept) :
    items.Edge yyparse p X (yyparse.goto p X) ∧ yyparse.goto p X ≠ YYFINAL ∧
      slack (yyparse.goto p X) ≤ natAt peaks (X.num - YYNTOKENS) := by
  have h := headOk_of_heads hX
  have hnum : X.num ≠ 180 := fun h => hne (Symbol.num_inj h)
  rw [headOk, if_neg hnum] at h
  simp only [Bool.and_eq_true, Nat.ble_eq, bne_iff_ne] at h
  obtain ⟨⟨⟨⟨hle, hlast⟩, hedge⟩, hfinal⟩, hslack⟩ := h
  rw [gotoAt_eq hle hlast, ← goto_yyparse] at hedge hfinal hslack
  exact ⟨edge_of_edgeOk hedge, hfinal, hslack⟩

/-- An index of the table is checked for the states that begin before it. -/
theorem entryOk_of_index {p : ℕ} (hp : p < 549) (hfinal : p ≠ YYFINAL) {t : ℕ} (ht : t < YYNTOKENS)
    (hpact : yypact.getD p YYPACT_NINF ≠ YYPACT_NINF)
    (h₀ : 0 ≤ yypact.getD p YYPACT_NINF + t) (hlast : yypact.getD p YYPACT_NINF + t ≤ YYLAST)
    (hcheck : yycheck.getD (yypact.getD p YYPACT_NINF + t).toNat (-1) = t) :
    entryOk p t (yytable.getD (yypact.getD p YYPACT_NINF + t).toNat 0) = true := by
  have hstate := stateOk_of_lt hp
  simp only [stateOk, Bool.and_eq_true, Bool.or_eq_true, beq_iff_eq, decide_eq_true_eq,
    List.elem_iff, yypact_eq hp YYPACT_NINF] at hstate
  obtain ⟨hbase, hmem⟩ := hstate.2.resolve_left hpact
  generalize yypact.getD p YYPACT_NINF = base at *
  have hi : (base + t).toNat < 887 := by
    rw [YYLAST] at hlast
    omega
  have hindex := List.all_eq_true.1 indexOk_lt _ (List.mem_range.2 hi)
  rw [indexOk, yycheck_eq hi (-1), hcheck, yytable_eq hi 0] at hindex
  simp only [Int.toNat_natCast] at hindex
  have hsum : ((base + t).toNat + 87) - t = (base + 87).toNat := by omega
  have hguard : (decide (0 ≤ (t : ℤ)) && t.blt YYNTOKENS &&
      t.ble ((base + t).toNat + 87)) = true := by
    simp only [Bool.and_eq_true, decide_eq_true_eq, Nat.blt_eq, Nat.ble_eq]
    omega
  rw [hguard, hsum, Bool.not_true, Bool.false_or, List.all_eq_true] at hindex
  have hentry := hindex _ hmem
  rw [Nat.add_sub_cancel, Bool.or_eq_true] at hentry
  exact hentry.resolve_left fun h => hfinal (Nat.eq_of_beq_eq_true h)

/-- What a state does is its default or one of its entries, which is checked. -/
theorem action_cases {p : ℕ} (hp : p < 549) (hfinal : p ≠ YYFINAL) (t : Symbol) :
    action p t = defaultAction p ∨
      t.num < YYNTOKENS ∧ ∃ n, entryOk p t.num n = true ∧ action p t =
        if 0 < n then .shift n.toNat
        else if n = YYTABLE_NINF then .error
        else .reduce (-n).toNat := by
  dsimp only [action]
  split_ifs with hpact hi hpos hninf
  · exact Or.inl rfl
  · exact Or.inl rfl
  all_goals
    obtain ⟨hpact, ht⟩ := not_or.1 hpact
    obtain ⟨h₀, hi⟩ := not_or.1 hi
    obtain ⟨hlast, hcheck⟩ := not_or.1 hi
    have hentry := entryOk_of_index hp hfinal (Nat.lt_of_not_le ht) hpact (by omega) (by omega)
      (not_not.1 hcheck)
    refine Or.inr ⟨Nat.lt_of_not_le ht, _, hentry, ?_⟩
  · rw [if_pos hpos]
  · rw [if_neg hpos, if_pos hninf]
  · rw [if_neg hpos, if_neg hninf]

/-- Defaults are checked with their states, -/
theorem reduceOk_of_default {p n : ℕ} (hp : p < 549) (hfinal : p ≠ YYFINAL)
    (h : defaultAction p = .reduce n) : reduceOk p n = true := by
  have hstate := stateOk_of_lt hp
  rw [stateOk, yydefact_eq, Bool.and_eq_true, Bool.and_eq_true] at hstate
  rw [defaultAction] at h
  cases hn : yydefact.getD p 0 with
  | zero =>
    rw [hn] at h
    cases h
  | succ m =>
    rw [hn] at h hstate
    obtain rfl := Lr.Action.reduce.inj h
    simp only [Bool.or_eq_true] at hstate
    rcases hstate.1.1 with (hp | hm) | hok
    · exact absurd (Nat.eq_of_beq_eq_true hp) hfinal
    · exact absurd (Nat.eq_of_beq_eq_true hm) (Nat.succ_ne_zero m)
    · exact hok

/-- A shift is an entry, so that it is checked where it stands in the table. -/
theorem edge_of_shift {p q : ℕ} {t : Symbol} (hfinal : p ≠ YYFINAL)
    (h : action p t = .shift q) :
    t.num < YYNTOKENS ∧ items.Edge yyparse p t q ∧ (q = YYFINAL ↔ t = .YYEOF) := by
  rcases Nat.lt_or_ge p 549 with hp | hp
  · rcases action_cases hp hfinal t with hdefault | ⟨ht, n, hentry, ha⟩
    · rw [h, defaultAction] at hdefault
      split at hdefault <;> cases hdefault
    · rw [h] at ha
      split_ifs at ha with hpos hninf
      obtain rfl := Lr.Action.shift.inj ha
      rw [entryOk, if_pos hpos, Bool.and_eq_true] at hentry
      obtain ⟨hedge, hlast⟩ := hentry
      rw [beq_iff_eq, Bool.eq_iff_iff, beq_iff_eq, beq_iff_eq] at hlast
      refine ⟨ht, edge_of_edgeOk hedge, hlast.trans ?_⟩
      exact ⟨fun h => Symbol.num_inj h, fun h => congrArg Symbol.num h⟩
  · cases (action_of_le hp t).symm.trans h

/-- and the reductions of entries with these. -/
theorem reduceOk_of_reduce {p n : ℕ} {t : Symbol} (hfinal : p ≠ YYFINAL)
    (h : action p t = .reduce n) : reduceOk p n = true := by
  rcases Nat.lt_or_ge p 549 with hp | hp
  · rcases action_cases hp hfinal t with hdefault | ⟨-, m, hentry, ha⟩
    · exact reduceOk_of_default hp hfinal (hdefault.symm.trans h)
    · rw [h] at ha
      split_ifs at ha with hpos hninf
      obtain rfl := Lr.Action.reduce.inj ha
      rw [entryOk, if_neg hpos, Bool.or_eq_true, beq_iff_eq] at hentry
      exact hentry.resolve_left hninf
  · cases (action_of_le hp t).symm.trans h

/-- The tables of the parser fit the rules of its grammar. -/
theorem valid_yyparse : Lr.Valid yyparse items 1 .input where
  kernel_zero := by
    rintro n d ⟨-, hmem⟩
    have hnil : kernels.getD 0 [] = [] := rfl
    rw [hnil] at hmem
    cases hmem
  shift p t q hfinal h := by
    rw [action_yyparse] at h
    exact (edge_of_shift hfinal h).2
  reduce p t n hfinal h := by
    rw [action_yyparse] at h
    obtain ⟨hn, r, hr, hhas, -⟩ := rule_of_reduceOk (reduceOk_of_reduce hfinal h)
    exact ⟨hn, r, hr, hhas⟩
  goto p r n hr hn hheads := by
    obtain ⟨hedge, hfinal, -⟩ := goto_of_heads hheads ((lhs_rule hr).2 hn)
    exact ⟨hedge, hfinal⟩
  accept := by
    have hkernel : 102 ∈ kernels.getD YYFINAL [] := by decide
    exact ⟨_, rfl, rfl, ⟨by decide, hkernel⟩, fun p => eq_zero_of_heads⟩
  eof n r hr := (lhs_rule hr).1

/-- Every reduction lowers the weight of the stack. -/
theorem weighted_yyparse : Lr.Weighted yyparse items weight slack 23 where
  shift p t q hfinal h := by
    rw [action_yyparse] at h
    have ht := (edge_of_shift hfinal h).1
    have hslack := slack_le q
    rw [weight, if_pos ht]
    omega
  reduce p t n r hfinal h hr p' hheads := by
    rw [action_yyparse] at h
    obtain ⟨hn, r', hr', -, hweight⟩ := rule_of_reduceOk (reduceOk_of_reduce hfinal h)
    obtain rfl := Option.some.inj (hr.symm.trans hr')
    have hpeak := (goto_of_heads hheads ((lhs_rule hr).2 hn)).2.2
    omega

/-! ## What the parser does -/

/-- A token is worth 24 turns. -/
theorem turns_yyparse (w : List Token) (st : ParseState) :
    Lr.turns weight slack yyparse 23 ⟨[], w, st⟩ = 24 * w.length + 33 := by
  have hslack : slack 0 = 8 := slack_eq 0
  have hturns : Lr.turns weight slack yyparse 23 ⟨[], w, st⟩ =
      (23 + 1) * (w.length + 1) + (0 + slack 0) + 1 := if_neg (show ¬0 = YYFINAL by decide)
  rw [hturns, hslack]
  omega

/-- The parser stops on every text. -/
theorem halts_yyparse {w : List Token} (hw : ∀ x ∈ w, x.1 ≠ .YYEOF) (st : ParseState) :
    ∃ stop c, yyparse.run (24 * w.length + 33) ⟨[], w, st⟩ = some (stop, c) := by
  obtain ⟨⟨stop, c⟩, hrun⟩ := weighted_yyparse.halts valid_yyparse hw st
  exact ⟨stop, c, turns_yyparse w st ▸ hrun⟩

/-- Whatever the tokens, the parser stops after a number of turns that is linear in the length of
the text, it never reads a value as one of another symbol, and what it accepts has a syntax tree
whose value is the result. -/
theorem outcome_yyparse {w : List Token} (hw : ∀ x ∈ w, x.1 ≠ .YYEOF) (st : ParseState) :
    ∃ stop c, yyparse.run (24 * w.length + 33) ⟨[], w, st⟩ = some (stop, c) ∧
      stop ≠ .confused ∧ (stop = .accepted →
        ∃ t v, Lr.Tree.yield t = w ∧ t.eval yyparse st = some (⟨.input, v⟩, c.st)) := by
  obtain ⟨stop, c, hrun⟩ := halts_yyparse hw st
  obtain ⟨hsteps, hstop⟩ := Lr.Parser.steps_of_run hrun
  refine ⟨stop, c, hrun, ?_, ?_⟩
  · rintro rfl
    exact valid_yyparse.not_confused hw hsteps hstop
  · rintro rfl
    exact valid_yyparse.accepted hw hsteps hstop

set_option maxRecDepth 4000 in
/-- `SHOW TABLES` is accepted. -/
theorem outcome_yyparse_showTables : ∃ c,
    yyparse.run 81 ⟨[], [⟨.SHOW, ()⟩, ⟨.TABLES, ()⟩], {}⟩ = some (.accepted, c) ∧
      ∃ t v, Lr.Tree.yield t = [⟨.SHOW, ()⟩, ⟨.TABLES, ()⟩] ∧
        t.eval yyparse {} = some (⟨.input, v⟩, c.st) := by
  obtain ⟨stop, c, hrun, -, haccept⟩ :=
    outcome_yyparse (w := [⟨.SHOW, ()⟩, ⟨.TABLES, ()⟩]) (by decide) {}
  have hstop : (yyparse.run 81 ⟨[], [⟨.SHOW, ()⟩, ⟨.TABLES, ()⟩], {}⟩).map Prod.fst =
      some .accepted := rfl
  obtain rfl : stop = .accepted :=
    Option.some.inj ((congrArg (Option.map Prod.fst) hrun).symm.trans hstop)
  exact ⟨c, hrun, haccept rfl⟩

end UhpSql
