import SuiteTrigger.Text.Syllable

namespace SuiteTrigger.Nameprep

/-- A second part, and the first parts before it, each followed by what both make. -/
structure CompositionRun where
  second : Nat
  pairs : String

def compositions : List CompositionRun :=
  [⟨0x300,
     "AÀEÈIÌOÒUÙaàeèiìoòuùÜǛüǜNǸnǹЕЀИЍеѐиѝĒḔēḕŌṐōṑWẀwẁÂẦâầĂẰăằÊỀêềÔỒôồƠỜ" ++
     "ơờƯỪưừYỲyỳἀἂἁἃἈἊἉἋἐἒἑἓἘἚἙἛἠἢἡἣἨἪἩἫἰἲἱἳἸἺἹἻὀὂὁὃὈὊὉὋὐὒὑὓὙὛὠὢὡὣὨὪὩὫαὰεὲηὴιὶοὸ" ++
     "υὺωὼΑᾺΕῈΗῊ\u1fbf\u1fcdϊῒΙῚ\u1ffe\u1fddϋῢΥῪ\u00a8\u1fedΟῸΩῺ"⟩,
   ⟨0x301,
     "AÁEÉIÍOÓUÚYÝaáeéiíoóuúyýCĆcćLĹlĺNŃnńRŔrŕSŚsśZŹzźÜǗüǘGǴgǵÅǺåǻÆǼæǽØǾøǿ" ++
     "\u00a8\u0385ΑΆΕΈΗΉΙΊΟΌΥΎΩΏϊΐαάεέηήιίϋΰοόυύωώϒϓГЃКЌгѓкќÇḈçḉĒḖē" ++
     "ḗÏḮïḯKḰkḱMḾmḿÕṌõṍŌṒōṓPṔpṕŨṸũṹWẂwẃÂẤâấĂẮăắÊẾêếÔỐôốƠỚơớƯỨưứἀἄἁἅἈἌἉἍἐἔἑἕἘἜἙἝἠἤἡἥἨ" ++
     "ἬἩἭἰἴἱἵἸἼἹἽὀὄὁὅὈὌὉὍὐὔὑὕὙὝὠὤὡὥὨὬὩὭ\u1fbf\u1fce\u1ffe\u1fde"⟩,
   ⟨0x302, "AÂEÊIÎOÔUÛaâeêiîoôuûCĈcĉGĜgĝHĤhĥJĴjĵSŜsŝWŴwŵYŶyŷZẐzẑẠẬạậẸỆẹệỌỘọộ"⟩,
   ⟨0x303, "AÃNÑOÕaãnñoõIĨiĩUŨuũVṼvṽÂẪâẫĂẴăẵEẼeẽÊỄêễÔỖôỗƠỠơỡƯỮưữYỸyỹ"⟩,
   ⟨0x304,
     "AĀaāEĒeēIĪiīOŌoōUŪuūÜǕüǖÄǞäǟȦǠȧǡÆǢæǣǪǬǫǭÖȪöȫÕȬõȭȮȰȯȱYȲyȳИӢиӣУӮуӯGḠg" ++
     "ḡḶḸḷḹṚṜṛṝαᾱΑᾹιῑΙῙυῡΥῩ"⟩,
   ⟨0x306,
     "AĂaăEĔeĕGĞgğIĬiĭOŎoŏUŬuŭУЎИЙийуўЖӁжӂАӐаӑЕӖеӗȨḜȩḝẠẶạặαᾰΑᾸιῐΙῘυῠ" ++
     "ΥῨ"⟩,
   ⟨0x307,
     "CĊcċEĖeėGĠgġIİZŻzżAȦaȧOȮoȯBḂbḃDḊdḋFḞfḟHḢhḣMṀmṁNṄnṅPṖpṗRṘrṙSṠsṡŚṤśṥŠṦšṧṢṨṣṩTṪtṫWẆ" ++
     "wẇXẊxẋYẎyẏſẛ"⟩,
   ⟨0x308,
     "AÄEËIÏOÖUÜaäeëiïoöuüyÿYŸΙΪΥΫιϊυϋϒϔЕЁІЇеёіїАӒаӓӘӚәӛЖӜжӝЗӞзӟИӤиӥ" ++
     "ОӦоӧӨӪөӫЭӬэӭУӰуӱЧӴчӵЫӸыӹHḦhḧÕṎõṏŪṺūṻWẄwẅXẌxẍtẗ"⟩,
   ⟨0x309, "AẢaảÂẨâẩĂẲăẳEẺeẻÊỂêểIỈiỉOỎoỏÔỔôổƠỞơởUỦuủƯỬưửYỶyỷ"⟩, ⟨0x30A, "AÅaåUŮuůwẘyẙ"⟩,
   ⟨0x30B, "OŐoőUŰuűУӲуӳ"⟩,
   ⟨0x30C,
     "CČcčDĎdďEĚeěLĽlľNŇnňRŘrřSŠsšTŤtťZŽzžAǍaǎIǏiǐOǑoǒUǓuǔÜǙüǚGǦgǧKǨkǩƷǮʒǯjǰHȞ" ++
     "hȟ"⟩,
   ⟨0x30F, "AȀaȁEȄeȅIȈiȉOȌoȍRȐrȑUȔuȕѴѶѵѷ"⟩, ⟨0x311, "AȂaȃEȆeȇIȊiȋOȎoȏRȒrȓUȖuȗ"⟩,
   ⟨0x313, "αἀΑἈεἐΕἘηἠΗἨιἰΙἸοὀΟὈυὐωὠΩὨρῤ"⟩, ⟨0x314, "αἁΑἉεἑΕἙηἡΗἩιἱΙἹοὁΟὉυὑΥὙωὡΩὩρῥΡῬ"⟩,
   ⟨0x31B, "OƠoơUƯuư"⟩,
   ⟨0x323,
     "BḄbḅDḌdḍHḤhḥKḲkḳLḶlḷMṂmṃNṆnṇRṚrṛSṢsṣTṬtṭVṾvṿWẈwẉZẒzẓAẠaạEẸeẹIỊiịOỌoọƠỢơợUỤuụƯỰưự" ++
     "YỴyỵ"⟩,
   ⟨0x324, "UṲuṳ"⟩, ⟨0x325, "AḀaḁ"⟩, ⟨0x326, "SȘsșTȚtț"⟩,
   ⟨0x327, "CÇcçGĢgģKĶkķLĻlļNŅnņRŖrŗSŞsşTŢtţEȨeȩDḐdḑHḨhḩ"⟩, ⟨0x328, "AĄaąEĘeęIĮiįUŲuųOǪoǫ"⟩,
   ⟨0x32D, "DḒdḓEḘeḙLḼlḽNṊnṋTṰtṱUṶuṷ"⟩, ⟨0x32E, "HḪhḫ"⟩, ⟨0x330, "EḚeḛIḬiḭUṴuṵ"⟩,
   ⟨0x331, "BḆbḇDḎdḏKḴkḵLḺlḻNṈnṉRṞrṟTṮtṯZẔzẕhẖ"⟩,
   ⟨0x338,
     "←↚→↛↔↮⇐⇍⇔⇎⇒⇏∃∄∈∉∋∌∣∤∥∦∼≁≃≄≅≇≈≉=≠≡≢≍≭<≮>≯≤≰≥≱≲≴≳≵≶≸≷≹≺⊀≻⊁⊂⊄⊃⊅" ++
     "⊆⊈⊇⊉⊢⊬⊨⊭⊩⊮⊫⊯≼⋠≽⋡⊑⋢⊒⋣⊲⋪⊳⋫⊴⋬⊵⋭"⟩,
   ⟨0x342,
     "ἀἆἁἇἈἎἉἏἠἦἡἧἨἮἩἯἰἶἱἷἸἾἹἿὐὖὑὗὙὟὠὦὡὧὨὮὩὯαᾶ\u00a8\u1fc1ηῆ\u1fbf\u1fcfιῖϊῗ\u1ffe" ++
     "\u1fdfυῦϋῧωῶ"⟩,
   ⟨0x345,
     "ἀᾀἁᾁἂᾂἃᾃἄᾄἅᾅἆᾆἇᾇἈᾈἉᾉἊᾊἋᾋἌᾌἍᾍἎᾎἏᾏἠᾐἡᾑἢᾒἣᾓἤᾔἥᾕἦᾖἧᾗἨᾘἩᾙἪᾚἫᾛἬᾜἭᾝἮᾞἯᾟὠᾠὡᾡὢᾢὣᾣὤᾤὥᾥὦᾦὧᾧ" ++
     "ὨᾨὩᾩὪᾪὫᾫὬᾬὭᾭὮᾮὯᾯὰᾲαᾳάᾴᾶᾷΑᾼὴῂηῃήῄῆῇΗῌὼῲωῳώῴῶῷΩῼ"⟩,
   ⟨0x653, "\u0627\u0622"⟩,
   ⟨0x654, "\u0627\u0623\u0648\u0624\u064a\u0626\u06d5\u06c0\u06c1\u06c2\u06d2\u06d3"⟩,
   ⟨0x655, "\u0627\u0625"⟩, ⟨0x93C, "नऩरऱळऴ"⟩, ⟨0x9BE, "\u09c7\u09cb"⟩, ⟨0x9D7, "\u09c7\u09cc"⟩,
   ⟨0xB3E, "\u0b47\u0b4b"⟩, ⟨0xB56, "\u0b47\u0b48"⟩, ⟨0xB57, "\u0b47\u0b4c"⟩,
   ⟨0xBBE, "\u0bc6\u0bca\u0bc7\u0bcb"⟩, ⟨0xBD7, "ஒஔ\u0bc6\u0bcc"⟩, ⟨0xC56, "\u0c46\u0c48"⟩,
   ⟨0xCC2, "\u0cc6\u0cca"⟩, ⟨0xCD5, "\u0cbf\u0cc0\u0cc6\u0cc7\u0cca\u0ccb"⟩,
   ⟨0xCD6, "\u0cc6\u0cc8"⟩, ⟨0xD3E, "\u0d46\u0d4a\u0d47\u0d4b"⟩, ⟨0xD57, "\u0d46\u0d4c"⟩,
   ⟨0xDCA, "\u0dd9\u0dda\u0ddc\u0ddd"⟩, ⟨0xDCF, "\u0dd9\u0ddc"⟩, ⟨0xDDF, "\u0dd9\u0dde"⟩,
   ⟨0x102E, "ဥဦ"⟩,
   ⟨0x1B35, "ᬅᬆᬇᬈᬉᬊᬋᬌᬍᬎᬑᬒ\u1b3a\u1b3b\u1b3c\u1b3d\u1b3e\u1b40\u1b3f\u1b41\u1b42\u1b43"⟩,
   ⟨0x3099,
     "かがきぎくぐけげこごさざしじすずせぜそぞただちぢつづてでとどはばひびふぶへべほぼ" ++
     "うゔゝゞカガキギクグケゲコゴサザシジスズセゼソゾタダチヂツヅテデトドハバヒビフブ" ++
     "ヘベホボウヴワヷヰヸヱヹヲヺヽヾ"⟩,
   ⟨0x309A, "はぱひぴふぷへぺほぽハパヒピフプヘペホポ"⟩, ⟨0x110BA, "𑂙𑂚𑂛𑂜𑂥𑂫"⟩, ⟨0x11127, "𑄱𑄮𑄲𑄯"⟩, ⟨0x1133E, "𑍇𑍋"⟩,
   ⟨0x11357, "𑍇𑍌"⟩, ⟨0x114B0, "𑒹𑒼"⟩, ⟨0x114BA, "𑒹𑒻"⟩, ⟨0x114BD, "𑒹𑒾"⟩, ⟨0x115AF, "𑖸𑖺𑖹𑖻"⟩,
   ⟨0x11930, "𑤵𑤸"⟩]

/-- What follows a code point in a text of pairs. -/
def partner? (code : Nat) : List Char → Option Char
  | first :: whole :: rest => if first.toNat = code then some whole else partner? code rest
  | _ => none

def composite? (first second : Nat) : Option Nat :=
  (Text.Syllable.composite? first second).or do
    let run ← compositions.find? (·.second = second)
    let whole ← partner? first run.pairs.toList
    some whole.toNat

end SuiteTrigger.Nameprep
