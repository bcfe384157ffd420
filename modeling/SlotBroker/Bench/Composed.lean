/-!
# Composed characters

A letter with a mark after it is the same text as the one character that stands for both. The table
holds small letters and the signs of the kana: for each mark, letters and what they become with it.
-/

namespace SlotBroker.Bench

def compositions : List (Char × String) :=
  [('\u0300', "aàeèiìnǹoòuùwẁyỳâầêềôồüǜăằēḕōṑơờưừαὰεὲηὴιὶοὸυὺωὼϊῒϋῢеѐиѝἀἂἁἃἐἒἑἓἠἢἡἣἰἲἱἳὀὂὁὃὐὒὑὓ"
      ++ "ὠὢὡὣ"),
    ('\u0301', "aácćeégǵiíkḱlĺmḿnńoópṕrŕsśuúwẃyýzźâấåǻæǽçḉêếïḯôốõṍøǿüǘăắēḗōṓũṹơớưứαάεέηήιίοόυύωώ"
      ++ "ϊΐϋΰгѓкќἀἄἁἅἐἔἑἕἠἤἡἥἰἴἱἵὀὄὁὅὐὔὑὕὠὤὡὥ"),
    ('\u0302', "aâcĉeêgĝhĥiîjĵoôsŝuûwŵyŷzẑạậẹệọộ"),
    ('\u0303', "aãeẽiĩnñoõuũvṽyỹâẫêễôỗăẵơỡưữ"),
    ('\u0304', "aāeēgḡiīoōuūyȳäǟæǣõȭöȫüǖǫǭȧǡȯȱαᾱιῑυῡиӣуӯḷḹṛṝ"),
    ('\u0306', "aăeĕgğiĭoŏuŭȩḝαᾰιῐυῠаӑеӗжӂийуўạặ"),
    ('\u0307', "aȧbḃcċdḋeėfḟgġhḣmṁnṅoȯpṗrṙsṡtṫwẇxẋyẏzżśṥšṧṣṩ"),
    ('\u0308', "aäeëhḧiïoötẗuüwẅxẍyÿõṏūṻιϊυϋаӓеёжӝзӟиӥоӧуӱчӵыӹэӭіїәӛөӫ"),
    ('\u0309', "aảeẻiỉoỏuủyỷâẩêểôổăẳơởưử"),
    ('\u030a', "aåuůwẘyẙ"),
    ('\u030b', "oőuűуӳ"),
    ('\u030c', "aǎcčdďeěgǧhȟiǐjǰkǩlľnňoǒrřsštťuǔzžüǚʒǯ"),
    ('\u030f', "aȁeȅiȉoȍrȑuȕѵѷ"),
    ('\u0311', "aȃeȇiȋoȏrȓuȗ"),
    ('\u0313', "αἀεἐηἠιἰοὀρῤυὐωὠ"),
    ('\u0314', "αἁεἑηἡιἱοὁρῥυὑωὡ"),
    ('\u031b', "oơuư"),
    ('\u0323', "aạbḅdḍeẹhḥiịkḳlḷmṃnṇoọrṛsṣtṭuụvṿwẉyỵzẓơợưự"),
    ('\u0324', "uṳ"),
    ('\u0325', "aḁ"),
    ('\u0326', "sștț"),
    ('\u0327', "cçdḑeȩgģhḩkķlļnņrŗsştţ"),
    ('\u0328', "aąeęiįoǫuų"),
    ('\u032d', "dḓeḙlḽnṋtṱuṷ"),
    ('\u032e', "hḫ"),
    ('\u0330', "eḛiḭuṵ"),
    ('\u0331', "bḇdḏhẖkḵlḻnṉrṟtṯzẕ"),
    ('\u0342', "αᾶηῆιῖυῦωῶϊῗϋῧἀἆἁἇἠἦἡἧἰἶἱἷὐὖὑὗὠὦὡὧ"),
    ('\u3099', "うゔかがきぎくぐけげこごさざしじすずせぜそぞただちぢつづてでとどはばひびふぶへべほぼゝゞウヴカガキギクグケゲコゴサザシジスズセゼソゾタダチヂツヅテデトドハバヒビ"
      ++ "フブヘベホボワヷヰヸヱヹヲヺヽヾ"),
    ('\u309a', "はぱひぴふぷへぺほぽハパヒピフプヘペホポ")]

/-- Look a letter up among letters that are each followed by what they become. -/
def becomes? (c : Char) : List Char → Option Char
  | a :: b :: cs => if a = c then some b else becomes? c cs
  | _ => none

/-- The one character for a letter and a mark. -/
def compose? (letter mark : Char) : Option Char :=
  (compositions.find? fun p => p.1 = mark).bind fun p => becomes? letter p.2.toList

/-- The text with every letter and mark composed, as far as there are characters for them. -/
def composedFrom : Char → List Char → List Char
  | b, [] => [b]
  | b, c :: cs =>
    match compose? b c with
    | some d => composedFrom d cs
    | none => b :: composedFrom c cs

def composed : List Char → List Char
  | [] => []
  | c :: cs => composedFrom c cs

end SlotBroker.Bench
