import PageLayers.Text.Range

/-!
Base characters in the Unicode Character Database, version 14: what is left of a character's full
compatibility decomposition without its combining marks. A row `⟨k, text⟩` lists characters that
leave `k` characters, each followed by them. Hangul syllables follow by arithmetic and are not
listed.
-/

namespace PageLayers.Text

/-- Characters with a combining class other than zero. -/
def combiningRanges : List CharRange := [
  ⟨0x300, 0x34E⟩, ⟨0x350, 0x36F⟩, ⟨0x483, 0x487⟩, ⟨0x591, 0x5BD⟩, ⟨0x5BF, 0x5BF⟩, ⟨0x5C1, 0x5C2⟩,
  ⟨0x5C4, 0x5C5⟩, ⟨0x5C7, 0x5C7⟩, ⟨0x610, 0x61A⟩, ⟨0x64B, 0x65F⟩, ⟨0x670, 0x670⟩, ⟨0x6D6, 0x6DC⟩,
  ⟨0x6DF, 0x6E4⟩, ⟨0x6E7, 0x6E8⟩, ⟨0x6EA, 0x6ED⟩, ⟨0x711, 0x711⟩, ⟨0x730, 0x74A⟩, ⟨0x7EB, 0x7F3⟩,
  ⟨0x7FD, 0x7FD⟩, ⟨0x816, 0x819⟩, ⟨0x81B, 0x823⟩, ⟨0x825, 0x827⟩, ⟨0x829, 0x82D⟩, ⟨0x859, 0x85B⟩,
  ⟨0x898, 0x89F⟩, ⟨0x8CA, 0x8E1⟩, ⟨0x8E3, 0x8FF⟩, ⟨0x93C, 0x93C⟩, ⟨0x94D, 0x94D⟩, ⟨0x951, 0x954⟩,
  ⟨0x9BC, 0x9BC⟩, ⟨0x9CD, 0x9CD⟩, ⟨0x9FE, 0x9FE⟩, ⟨0xA3C, 0xA3C⟩, ⟨0xA4D, 0xA4D⟩, ⟨0xABC, 0xABC⟩,
  ⟨0xACD, 0xACD⟩, ⟨0xB3C, 0xB3C⟩, ⟨0xB4D, 0xB4D⟩, ⟨0xBCD, 0xBCD⟩, ⟨0xC3C, 0xC3C⟩, ⟨0xC4D, 0xC4D⟩,
  ⟨0xC55, 0xC56⟩, ⟨0xCBC, 0xCBC⟩, ⟨0xCCD, 0xCCD⟩, ⟨0xD3B, 0xD3C⟩, ⟨0xD4D, 0xD4D⟩, ⟨0xDCA, 0xDCA⟩,
  ⟨0xE38, 0xE3A⟩, ⟨0xE48, 0xE4B⟩, ⟨0xEB8, 0xEBA⟩, ⟨0xEC8, 0xECB⟩, ⟨0xF18, 0xF19⟩, ⟨0xF35, 0xF35⟩,
  ⟨0xF37, 0xF37⟩, ⟨0xF39, 0xF39⟩, ⟨0xF71, 0xF72⟩, ⟨0xF74, 0xF74⟩, ⟨0xF7A, 0xF7D⟩, ⟨0xF80, 0xF80⟩,
  ⟨0xF82, 0xF84⟩, ⟨0xF86, 0xF87⟩, ⟨0xFC6, 0xFC6⟩, ⟨0x1037, 0x1037⟩, ⟨0x1039, 0x103A⟩,
    ⟨0x108D, 0x108D⟩,
  ⟨0x135D, 0x135F⟩, ⟨0x1714, 0x1715⟩, ⟨0x1734, 0x1734⟩, ⟨0x17D2, 0x17D2⟩, ⟨0x17DD, 0x17DD⟩,
    ⟨0x18A9, 0x18A9⟩,
  ⟨0x1939, 0x193B⟩, ⟨0x1A17, 0x1A18⟩, ⟨0x1A60, 0x1A60⟩, ⟨0x1A75, 0x1A7C⟩, ⟨0x1A7F, 0x1A7F⟩,
    ⟨0x1AB0, 0x1ABD⟩,
  ⟨0x1ABF, 0x1ACE⟩, ⟨0x1B34, 0x1B34⟩, ⟨0x1B44, 0x1B44⟩, ⟨0x1B6B, 0x1B73⟩, ⟨0x1BAA, 0x1BAB⟩,
    ⟨0x1BE6, 0x1BE6⟩,
  ⟨0x1BF2, 0x1BF3⟩, ⟨0x1C37, 0x1C37⟩, ⟨0x1CD0, 0x1CD2⟩, ⟨0x1CD4, 0x1CE0⟩, ⟨0x1CE2, 0x1CE8⟩,
    ⟨0x1CED, 0x1CED⟩,
  ⟨0x1CF4, 0x1CF4⟩, ⟨0x1CF8, 0x1CF9⟩, ⟨0x1DC0, 0x1DFF⟩, ⟨0x20D0, 0x20DC⟩, ⟨0x20E1, 0x20E1⟩,
    ⟨0x20E5, 0x20F0⟩,
  ⟨0x2CEF, 0x2CF1⟩, ⟨0x2D7F, 0x2D7F⟩, ⟨0x2DE0, 0x2DFF⟩, ⟨0x302A, 0x302F⟩, ⟨0x3099, 0x309A⟩,
    ⟨0xA66F, 0xA66F⟩,
  ⟨0xA674, 0xA67D⟩, ⟨0xA69E, 0xA69F⟩, ⟨0xA6F0, 0xA6F1⟩, ⟨0xA806, 0xA806⟩, ⟨0xA82C, 0xA82C⟩,
    ⟨0xA8C4, 0xA8C4⟩,
  ⟨0xA8E0, 0xA8F1⟩, ⟨0xA92B, 0xA92D⟩, ⟨0xA953, 0xA953⟩, ⟨0xA9B3, 0xA9B3⟩, ⟨0xA9C0, 0xA9C0⟩,
    ⟨0xAAB0, 0xAAB0⟩,
  ⟨0xAAB2, 0xAAB4⟩, ⟨0xAAB7, 0xAAB8⟩, ⟨0xAABE, 0xAABF⟩, ⟨0xAAC1, 0xAAC1⟩, ⟨0xAAF6, 0xAAF6⟩,
    ⟨0xABED, 0xABED⟩,
  ⟨0xFB1E, 0xFB1E⟩, ⟨0xFE20, 0xFE2F⟩, ⟨0x101FD, 0x101FD⟩, ⟨0x102E0, 0x102E0⟩, ⟨0x10376, 0x1037A⟩,
    ⟨0x10A0D, 0x10A0D⟩,
  ⟨0x10A0F, 0x10A0F⟩, ⟨0x10A38, 0x10A3A⟩, ⟨0x10A3F, 0x10A3F⟩, ⟨0x10AE5, 0x10AE6⟩,
    ⟨0x10D24, 0x10D27⟩, ⟨0x10EAB, 0x10EAC⟩,
  ⟨0x10F46, 0x10F50⟩, ⟨0x10F82, 0x10F85⟩, ⟨0x11046, 0x11046⟩, ⟨0x11070, 0x11070⟩,
    ⟨0x1107F, 0x1107F⟩, ⟨0x110B9, 0x110BA⟩,
  ⟨0x11100, 0x11102⟩, ⟨0x11133, 0x11134⟩, ⟨0x11173, 0x11173⟩, ⟨0x111C0, 0x111C0⟩,
    ⟨0x111CA, 0x111CA⟩, ⟨0x11235, 0x11236⟩,
  ⟨0x112E9, 0x112EA⟩, ⟨0x1133B, 0x1133C⟩, ⟨0x1134D, 0x1134D⟩, ⟨0x11366, 0x1136C⟩,
    ⟨0x11370, 0x11374⟩, ⟨0x11442, 0x11442⟩,
  ⟨0x11446, 0x11446⟩, ⟨0x1145E, 0x1145E⟩, ⟨0x114C2, 0x114C3⟩, ⟨0x115BF, 0x115C0⟩,
    ⟨0x1163F, 0x1163F⟩, ⟨0x116B6, 0x116B7⟩,
  ⟨0x1172B, 0x1172B⟩, ⟨0x11839, 0x1183A⟩, ⟨0x1193D, 0x1193E⟩, ⟨0x11943, 0x11943⟩,
    ⟨0x119E0, 0x119E0⟩, ⟨0x11A34, 0x11A34⟩,
  ⟨0x11A47, 0x11A47⟩, ⟨0x11A99, 0x11A99⟩, ⟨0x11C3F, 0x11C3F⟩, ⟨0x11D42, 0x11D42⟩,
    ⟨0x11D44, 0x11D45⟩, ⟨0x11D97, 0x11D97⟩,
  ⟨0x16AF0, 0x16AF4⟩, ⟨0x16B30, 0x16B36⟩, ⟨0x16FF0, 0x16FF1⟩, ⟨0x1BC9E, 0x1BC9E⟩,
    ⟨0x1D165, 0x1D169⟩, ⟨0x1D16D, 0x1D172⟩,
  ⟨0x1D17B, 0x1D182⟩, ⟨0x1D185, 0x1D18B⟩, ⟨0x1D1AA, 0x1D1AD⟩, ⟨0x1D242, 0x1D244⟩,
    ⟨0x1E000, 0x1E006⟩, ⟨0x1E008, 0x1E018⟩,
  ⟨0x1E01B, 0x1E021⟩, ⟨0x1E023, 0x1E024⟩, ⟨0x1E026, 0x1E02A⟩, ⟨0x1E130, 0x1E136⟩,
    ⟨0x1E2AE, 0x1E2AE⟩, ⟨0x1E2EC, 0x1E2EF⟩,
  ⟨0x1E8D0, 0x1E8D6⟩, ⟨0x1E944, 0x1E94A⟩]

/-- One row of the table: `width` characters follow each listed character. -/
structure BaseRow where
  width : Nat
  text : String

def baseRows : List BaseRow := [
  ⟨0, "\u0f73\u0f75\u0f81ﾞﾟ"⟩,
  ⟨1, "\u00a0 ¨ ªa¯ ²2³3´ µμ¸ ¹1ºoÀAÁAÂAÃAÄAÅAÇC"⟩,
  ⟨1, "ÈEÉEÊEËEÌIÍIÎIÏIÑNÒOÓOÔOÕOÖOÙUÚUÛUÜU"⟩,
  ⟨1, "ÝYàaáaâaãaäaåaçcèeéeêeëeìiíiîiïiñnòo"⟩,
  ⟨1, "óoôoõoöoùuúuûuüuýyÿyĀAāaĂAăaĄAąaĆCćc"⟩,
  ⟨1, "ĈCĉcĊCċcČCčcĎDďdĒEēeĔEĕeĖEėeĘEęeĚEěe"⟩,
  ⟨1, "ĜGĝgĞGğgĠGġgĢGģgĤHĥhĨIĩiĪIīiĬIĭiĮIįi"⟩,
  ⟨1, "İIĴJĵjĶKķkĹLĺlĻLļlĽLľlŃNńnŅNņnŇNňnŌO"⟩,
  ⟨1, "ōoŎOŏoŐOőoŔRŕrŖRŗrŘRřrŚSśsŜSŝsŞSşsŠS"⟩,
  ⟨1, "šsŢTţtŤTťtŨUũuŪUūuŬUŭuŮUůuŰUűuŲUųuŴW"⟩,
  ⟨1, "ŵwŶYŷyŸYŹZźzŻZżzŽZžzſsƠOơoƯUưuǍAǎaǏI"⟩,
  ⟨1, "ǐiǑOǒoǓUǔuǕUǖuǗUǘuǙUǚuǛUǜuǞAǟaǠAǡaǢÆ"⟩,
  ⟨1, "ǣæǦGǧgǨKǩkǪOǫoǬOǭoǮƷǯʒǰjǴGǵgǸNǹnǺAǻa"⟩,
  ⟨1, "ǼÆǽæǾØǿøȀAȁaȂAȃaȄEȅeȆEȇeȈIȉiȊIȋiȌOȍo"⟩,
  ⟨1, "ȎOȏoȐRȑrȒRȓrȔUȕuȖUȗuȘSșsȚTțtȞHȟhȦAȧa"⟩,
  ⟨1, "ȨEȩeȪOȫoȬOȭoȮOȯoȰOȱoȲYȳyʰhʱɦʲjʳrʴɹʵɻ"⟩,
  ⟨1, "ʶʁʷwʸy˘ ˙ ˚ ˛ ˜ ˝ ˠɣˡlˢsˣxˤʕʹʹͺ ;;΄ "⟩,
  ⟨1, "΅ ΆΑ··ΈΕΉΗΊΙΌΟΎΥΏΩΐιΪΙΫΥάαέεήηίιΰυϊι"⟩,
  ⟨1, "ϋυόούυώωϐβϑθϒΥϓΥϔΥϕφϖπϰκϱρϲςϴΘϵεϹΣЀЕ"⟩,
  ⟨1, "ЁЕЃГЇІЌКЍИЎУЙИйиѐеёеѓгїіќкѝиўуѶѴѷѵӁЖ"⟩,
  ⟨1, "ӂжӐАӑаӒАӓаӖЕӗеӚӘӛәӜЖӝжӞЗӟзӢИӣиӤИӥиӦО"⟩,
  ⟨1, "ӧоӪӨӫөӬЭӭэӮУӯуӰУӱуӲУӳуӴЧӵчӸЫӹы\u0622\u0627\u0623\u0627\u0624\u0648"⟩,
  ⟨1, "\u0625\u0627\u0626\u064a\u06c0\u06d5\u06c2\u06c1\u06d3\u06d2ऩनऱरऴळक़कख़खग़गज़जड़डढ़ढफ़फय़यড়ডঢ়ঢ"⟩,
  ⟨1, "য়যਲ਼ਲਸ਼ਸਖ਼ਖਗ਼ਗਜ਼ਜਫ਼ਫଡ଼ଡଢ଼ଢ\u0c48\u0c46\u0dda\u0dd9༌་\u0f76\u0fb2\u0f77\u0fb2\u0f78\u0fb3\u0f79\u0fb3ჼნᴬA"⟩,
  ⟨1, "ᴭÆᴮBᴰDᴱEᴲƎᴳGᴴHᴵIᴶJᴷKᴸLᴹMᴺNᴼOᴽȢᴾPᴿRᵀT"⟩,
  ⟨1, "ᵁUᵂWᵃaᵄɐᵅɑᵆᴂᵇbᵈdᵉeᵊəᵋɛᵌɜᵍgᵏkᵐmᵑŋᵒoᵓɔ"⟩,
  ⟨1, "ᵔᴖᵕᴗᵖpᵗtᵘuᵙᴝᵚɯᵛvᵜᴥᵝβᵞγᵟδᵠφᵡχᵢiᵣrᵤuᵥv"⟩,
  ⟨1, "ᵦβᵧγᵨρᵩφᵪχᵸнᶛɒᶜcᶝɕᶞðᶟɜᶠfᶡɟᶢɡᶣɥᶤɨᶥɩᶦɪ"⟩,
  ⟨1, "ᶧᵻᶨʝᶩɭᶪᶅᶫʟᶬɱᶭɰᶮɲᶯɳᶰɴᶱɵᶲɸᶳʂᶴʃᶵƫᶶʉᶷʊᶸᴜ"⟩,
  ⟨1, "ᶹʋᶺʌᶻzᶼʐᶽʑᶾʒᶿθḀAḁaḂBḃbḄBḅbḆBḇbḈCḉcḊD"⟩,
  ⟨1, "ḋdḌDḍdḎDḏdḐDḑdḒDḓdḔEḕeḖEḗeḘEḙeḚEḛeḜE"⟩,
  ⟨1, "ḝeḞFḟfḠGḡgḢHḣhḤHḥhḦHḧhḨHḩhḪHḫhḬIḭiḮI"⟩,
  ⟨1, "ḯiḰKḱkḲKḳkḴKḵkḶLḷlḸLḹlḺLḻlḼLḽlḾMḿmṀM"⟩,
  ⟨1, "ṁmṂMṃmṄNṅnṆNṇnṈNṉnṊNṋnṌOṍoṎOṏoṐOṑoṒO"⟩,
  ⟨1, "ṓoṔPṕpṖPṗpṘRṙrṚRṛrṜRṝrṞRṟrṠSṡsṢSṣsṤS"⟩,
  ⟨1, "ṥsṦSṧsṨSṩsṪTṫtṬTṭtṮTṯtṰTṱtṲUṳuṴUṵuṶU"⟩,
  ⟨1, "ṷuṸUṹuṺUṻuṼVṽvṾVṿvẀWẁwẂWẃwẄWẅwẆWẇwẈW"⟩,
  ⟨1, "ẉwẊXẋxẌXẍxẎYẏyẐZẑzẒZẓzẔZẕzẖhẗtẘwẙyẛs"⟩,
  ⟨1, "ẠAạaẢAảaẤAấaẦAầaẨAẩaẪAẫaẬAậaẮAắaẰAằa"⟩,
  ⟨1, "ẲAẳaẴAẵaẶAặaẸEẹeẺEẻeẼEẽeẾEếeỀEềeỂEểe"⟩,
  ⟨1, "ỄEễeỆEệeỈIỉiỊIịiỌOọoỎOỏoỐOốoỒOồoỔOổo"⟩,
  ⟨1, "ỖOỗoỘOộoỚOớoỜOờoỞOởoỠOỡoỢOợoỤUụuỦUủu"⟩,
  ⟨1, "ỨUứuỪUừuỬUửuỮUữuỰUựuỲYỳyỴYỵyỶYỷyỸYỹy"⟩,
  ⟨1, "ἀαἁαἂαἃαἄαἅαἆαἇαἈΑἉΑἊΑἋΑἌΑἍΑἎΑἏΑἐεἑε"⟩,
  ⟨1, "ἒεἓεἔεἕεἘΕἙΕἚΕἛΕἜΕἝΕἠηἡηἢηἣηἤηἥηἦηἧη"⟩,
  ⟨1, "ἨΗἩΗἪΗἫΗἬΗἭΗἮΗἯΗἰιἱιἲιἳιἴιἵιἶιἷιἸΙἹΙ"⟩,
  ⟨1, "ἺΙἻΙἼΙἽΙἾΙἿΙὀοὁοὂοὃοὄοὅοὈΟὉΟὊΟὋΟὌΟὍΟ"⟩,
  ⟨1, "ὐυὑυὒυὓυὔυὕυὖυὗυὙΥὛΥὝΥὟΥὠωὡωὢωὣωὤωὥω"⟩,
  ⟨1, "ὦωὧωὨΩὩΩὪΩὫΩὬΩὭΩὮΩὯΩὰαάαὲεέεὴηήηὶιίι"⟩,
  ⟨1, "ὸοόοὺυύυὼωώωᾀαᾁαᾂαᾃαᾄαᾅαᾆαᾇαᾈΑᾉΑᾊΑᾋΑ"⟩,
  ⟨1, "ᾌΑᾍΑᾎΑᾏΑᾐηᾑηᾒηᾓηᾔηᾕηᾖηᾗηᾘΗᾙΗᾚΗᾛΗᾜΗᾝΗ"⟩,
  ⟨1, "ᾞΗᾟΗᾠωᾡωᾢωᾣωᾤωᾥωᾦωᾧωᾨΩᾩΩᾪΩᾫΩᾬΩᾭΩᾮΩᾯΩ"⟩,
  ⟨1, "ᾰαᾱαᾲαᾳαᾴαᾶαᾷαᾸΑᾹΑᾺΑΆΑᾼΑ᾽ ιι᾿ ῀ ῁ ῂη"⟩,
  ⟨1, "ῃηῄηῆηῇηῈΕΈΕῊΗΉΗῌΗ῍ ῎ ῏ ῐιῑιῒιΐιῖιῗι"⟩,
  ⟨1, "ῘΙῙΙῚΙΊΙ῝ ῞ ῟ ῠυῡυῢυΰυῤρῥρῦυῧυῨΥῩΥῪΥ"⟩,
  ⟨1, "ΎΥῬΡ῭ ΅ ``ῲωῳωῴωῶωῷωῸΟΌΟῺΩΏΩῼΩ´ ῾ \u2000 "⟩,
  ⟨1, "\u2001 \u2002 \u2003 \u2004 \u2005 \u2006 \u2007 \u2008 \u2009 \u200a ‑‐‗ ․.\u202f ‾ \u205f ⁰0ⁱi"⟩,
  ⟨1, "⁴4⁵5⁶6⁷7⁸8⁹9⁺+⁻−⁼=⁽(⁾)ⁿn₀0₁1₂2₃3₄4₅5"⟩,
  ⟨1, "₆6₇7₈8₉9₊+₋−₌=₍(₎)ₐaₑeₒoₓxₔəₕhₖkₗlₘm"⟩,
  ⟨1, "ₙnₚpₛsₜtℂCℇƐℊgℋHℌHℍHℎhℏħℐIℑIℒLℓlℕNℙP"⟩,
  ⟨1, "ℚQℛRℜRℝRℤZΩΩℨZKKÅAℬBℭCℯeℰEℱFℳMℴoℵ\u05d0ℶ\u05d1"⟩,
  ⟨1, "ℷ\u05d2ℸ\u05d3ℹiℼπℽγℾΓℿΠ⅀∑ⅅDⅆdⅇeⅈiⅉjⅠIⅤVⅩXⅬLⅭC"⟩,
  ⟨1, "ⅮDⅯMⅰiⅴvⅹxⅼlⅽcⅾdⅿm↚←↛→↮↔⇍⇐⇎⇔⇏⇒∄∃∉∈∌∋"⟩,
  ⟨1, "∤∣∦∥≁∼≄≃≇≅≉≈≠=≢≡≭≍≮<≯>≰≤≱≥≴≲≵≳≸≶≹≷⊀≺"⟩,
  ⟨1, "⊁≻⊄⊂⊅⊃⊈⊆⊉⊇⊬⊢⊭⊨⊮⊩⊯⊫⋠≼⋡≽⋢⊑⋣⊒⋪⊲⋫⊳⋬⊴⋭⊵〈〈"⟩,
  ⟨1, "〉〉①1②2③3④4⑤5⑥6⑦7⑧8⑨9ⒶAⒷBⒸCⒹDⒺEⒻFⒼGⒽH"⟩,
  ⟨1, "ⒾIⒿJⓀKⓁLⓂMⓃNⓄOⓅPⓆQⓇRⓈSⓉTⓊUⓋVⓌWⓍXⓎYⓏZ"⟩,
  ⟨1, "ⓐaⓑbⓒcⓓdⓔeⓕfⓖgⓗhⓘiⓙjⓚkⓛlⓜmⓝnⓞoⓟpⓠqⓡr"⟩,
  ⟨1, "ⓢsⓣtⓤuⓥvⓦwⓧxⓨyⓩz⓪0⫝̸⫝ⱼjⱽVⵯⵡ⺟母⻳龟⼀一⼁丨⼂丶"⟩,
  ⟨1, "⼃丿⼄乙⼅亅⼆二⼇亠⼈人⼉儿⼊入⼋八⼌冂⼍冖⼎冫⼏几⼐凵⼑刀⼒力⼓勹⼔匕"⟩,
  ⟨1, "⼕匚⼖匸⼗十⼘卜⼙卩⼚厂⼛厶⼜又⼝口⼞囗⼟土⼠士⼡夂⼢夊⼣夕⼤大⼥女⼦子"⟩,
  ⟨1, "⼧宀⼨寸⼩小⼪尢⼫尸⼬屮⼭山⼮巛⼯工⼰己⼱巾⼲干⼳幺⼴广⼵廴⼶廾⼷弋⼸弓"⟩,
  ⟨1, "⼹彐⼺彡⼻彳⼼心⼽戈⼾戶⼿手⽀支⽁攴⽂文⽃斗⽄斤⽅方⽆无⽇日⽈曰⽉月⽊木"⟩,
  ⟨1, "⽋欠⽌止⽍歹⽎殳⽏毋⽐比⽑毛⽒氏⽓气⽔水⽕火⽖爪⽗父⽘爻⽙爿⽚片⽛牙⽜牛"⟩,
  ⟨1, "⽝犬⽞玄⽟玉⽠瓜⽡瓦⽢甘⽣生⽤用⽥田⽦疋⽧疒⽨癶⽩白⽪皮⽫皿⽬目⽭矛⽮矢"⟩,
  ⟨1, "⽯石⽰示⽱禸⽲禾⽳穴⽴立⽵竹⽶米⽷糸⽸缶⽹网⽺羊⽻羽⽼老⽽而⽾耒⽿耳⾀聿"⟩,
  ⟨1, "⾁肉⾂臣⾃自⾄至⾅臼⾆舌⾇舛⾈舟⾉艮⾊色⾋艸⾌虍⾍虫⾎血⾏行⾐衣⾑襾⾒見"⟩,
  ⟨1, "⾓角⾔言⾕谷⾖豆⾗豕⾘豸⾙貝⾚赤⾛走⾜足⾝身⾞車⾟辛⾠辰⾡辵⾢邑⾣酉⾤釆"⟩,
  ⟨1, "⾥里⾦金⾧長⾨門⾩阜⾪隶⾫隹⾬雨⾭靑⾮非⾯面⾰革⾱韋⾲韭⾳音⾴頁⾵風⾶飛"⟩,
  ⟨1, "⾷食⾸首⾹香⾺馬⾻骨⾼高⾽髟⾾鬥⾿鬯⿀鬲⿁鬼⿂魚⿃鳥⿄鹵⿅鹿⿆麥⿇麻⿈黃"⟩,
  ⟨1, "⿉黍⿊黑⿋黹⿌黽⿍鼎⿎鼓⿏鼠⿐鼻⿑齊⿒齒⿓龍⿔龜⿕龠\u3000 〶〒〸十〹卄〺卅"⟩,
  ⟨1, "がかぎきぐくげけごこざさじしずすぜせぞそだたぢちづつでてどとばはぱはびひ"⟩,
  ⟨1, "ぴひぶふぷふべへぺへぼほぽほゔう゛ ゜ ゞゝガカギキグクゲケゴコザサジシ"⟩,
  ⟨1, "ズスゼセゾソダタヂチヅツデテドトバハパハビヒピヒブフプフベヘペヘボホポホ"⟩,
  ⟨1, "ヴウヷワヸヰヹヱヺヲヾヽㄱᄀㄲᄁㄳᆪㄴᄂㄵᆬㄶᆭㄷᄃㄸᄄㄹᄅㄺᆰㄻᆱㄼᆲ"⟩,
  ⟨1, "ㄽᆳㄾᆴㄿᆵㅀᄚㅁᄆㅂᄇㅃᄈㅄᄡㅅᄉㅆᄊㅇᄋㅈᄌㅉᄍㅊᄎㅋᄏㅌᄐㅍᄑㅎᄒ"⟩,
  ⟨1, "ㅏᅡㅐᅢㅑᅣㅒᅤㅓᅥㅔᅦㅕᅧㅖᅨㅗᅩㅘᅪㅙᅫㅚᅬㅛᅭㅜᅮㅝᅯㅞᅰㅟᅱㅠᅲ"⟩,
  ⟨1, "ㅡᅳㅢᅴㅣᅵㅤᅠㅥᄔㅦᄕㅧᇇㅨᇈㅩᇌㅪᇎㅫᇓㅬᇗㅭᇙㅮᄜㅯᇝㅰᇟㅱᄝㅲᄞ"⟩,
  ⟨1, "ㅳᄠㅴᄢㅵᄣㅶᄧㅷᄩㅸᄫㅹᄬㅺᄭㅻᄮㅼᄯㅽᄲㅾᄶㅿᅀㆀᅇㆁᅌㆂᇱㆃᇲㆄᅗ"⟩,
  ⟨1, "ㆅᅘㆆᅙㆇᆄㆈᆅㆉᆈㆊᆑㆋᆒㆌᆔㆍᆞㆎᆡ㆒一㆓二㆔三㆕四㆖上㆗中㆘下㆙甲"⟩,
  ⟨1, "㆚乙㆛丙㆜丁㆝天㆞地㆟人㉄問㉅幼㉆文㉇箏㉠ᄀ㉡ᄂ㉢ᄃ㉣ᄅ㉤ᄆ㉥ᄇ㉦ᄉ㉧ᄋ"⟩,
  ⟨1, "㉨ᄌ㉩ᄎ㉪ᄏ㉫ᄐ㉬ᄑ㉭ᄒ㊀一㊁二㊂三㊃四㊄五㊅六㊆七㊇八㊈九㊉十㊊月㊋火"⟩,
  ⟨1, "㊌水㊍木㊎金㊏土㊐日㊑株㊒有㊓社㊔名㊕特㊖財㊗祝㊘労㊙秘㊚男㊛女㊜適㊝優"⟩,
  ⟨1, "㊞印㊟注㊠項㊡休㊢写㊣正㊤上㊥中㊦下㊧左㊨右㊩医㊪宗㊫学㊬監㊭企㊮資㊯協"⟩,
  ⟨1, "㊰夜㋐ア㋑イ㋒ウ㋓エ㋔オ㋕カ㋖キ㋗ク㋘ケ㋙コ㋚サ㋛シ㋜ス㋝セ㋞ソ㋟タ㋠チ"⟩,
  ⟨1, "㋡ツ㋢テ㋣ト㋤ナ㋥ニ㋦ヌ㋧ネ㋨ノ㋩ハ㋪ヒ㋫フ㋬ヘ㋭ホ㋮マ㋯ミ㋰ム㋱メ㋲モ"⟩,
  ⟨1, "㋳ヤ㋴ユ㋵ヨ㋶ラ㋷リ㋸ル㋹レ㋺ロ㋻ワ㋼ヰ㋽ヱ㋾ヲꚜъꚝьꝰꝯꟲCꟳFꟴQ"⟩,
  ⟨1, "ꟸĦꟹœꭜꜧꭝꬷꭞɫꭟꭒꭩʍ豈豈更更車車賈賈滑滑串串句句龜龜龜龜契契金金"⟩,
  ⟨1, "喇喇奈奈懶懶癩癩羅羅蘿蘿螺螺裸裸邏邏樂樂洛洛烙烙珞珞落落酪酪駱駱亂亂卵卵"⟩,
  ⟨1, "欄欄爛爛蘭蘭鸞鸞嵐嵐濫濫藍藍襤襤拉拉臘臘蠟蠟廊廊朗朗浪浪狼狼郎郎來來冷冷"⟩,
  ⟨1, "勞勞擄擄櫓櫓爐爐盧盧老老蘆蘆虜虜路路露露魯魯鷺鷺碌碌祿祿綠綠菉菉錄錄鹿鹿"⟩,
  ⟨1, "論論壟壟弄弄籠籠聾聾牢牢磊磊賂賂雷雷壘壘屢屢樓樓淚淚漏漏累累縷縷陋陋勒勒"⟩,
  ⟨1, "肋肋凜凜凌凌稜稜綾綾菱菱陵陵讀讀拏拏樂樂諾諾丹丹寧寧怒怒率率異異北北磻磻"⟩,
  ⟨1, "便便復復不不泌泌數數索索參參塞塞省省葉葉說說殺殺辰辰沈沈拾拾若若掠掠略略"⟩,
  ⟨1, "亮亮兩兩凉凉梁梁糧糧良良諒諒量量勵勵呂呂女女廬廬旅旅濾濾礪礪閭閭驪驪麗麗"⟩,
  ⟨1, "黎黎力力曆曆歷歷轢轢年年憐憐戀戀撚撚漣漣煉煉璉璉秊秊練練聯聯輦輦蓮蓮連連"⟩,
  ⟨1, "鍊鍊列列劣劣咽咽烈烈裂裂說說廉廉念念捻捻殮殮簾簾獵獵令令囹囹寧寧嶺嶺怜怜"⟩,
  ⟨1, "玲玲瑩瑩羚羚聆聆鈴鈴零零靈靈領領例例禮禮醴醴隸隸惡惡了了僚僚寮寮尿尿料料"⟩,
  ⟨1, "樂樂燎燎療療蓼蓼遼遼龍龍暈暈阮阮劉劉杻杻柳柳流流溜溜琉琉留留硫硫紐紐類類"⟩,
  ⟨1, "六六戮戮陸陸倫倫崙崙淪淪輪輪律律慄慄栗栗率率隆隆利利吏吏履履易易李李梨梨"⟩,
  ⟨1, "泥泥理理痢痢罹罹裏裏裡裡里里離離匿匿溺溺吝吝燐燐璘璘藺藺隣隣鱗鱗麟麟林林"⟩,
  ⟨1, "淋淋臨臨立立笠笠粒粒狀狀炙炙識識什什茶茶刺刺切切度度拓拓糖糖宅宅洞洞暴暴"⟩,
  ⟨1, "輻輻行行降降見見廓廓兀兀嗀嗀塚塚晴晴凞凞猪猪益益礼礼神神祥祥福福靖靖精精"⟩,
  ⟨1, "羽羽蘒蘒諸諸逸逸都都飯飯飼飼館館鶴鶴郞郞隷隷侮侮僧僧免免勉勉勤勤卑卑喝喝"⟩,
  ⟨1, "嘆嘆器器塀塀墨墨層層屮屮悔悔慨慨憎憎懲懲敏敏既既暑暑梅梅海海渚渚漢漢煮煮"⟩,
  ⟨1, "爫爫琢琢碑碑社社祉祉祈祈祐祐祖祖祝祝禍禍禎禎穀穀突突節節練練縉縉繁繁署署"⟩,
  ⟨1, "者者臭臭艹艹艹艹著著褐褐視視謁謁謹謹賓賓贈贈辶辶逸逸難難響響頻頻恵恵𤋮𤋮"⟩,
  ⟨1, "舘舘並並况况全全侀侀充充冀冀勇勇勺勺喝喝啕啕喙喙嗢嗢塚塚墳墳奄奄奔奔婢婢"⟩,
  ⟨1, "嬨嬨廒廒廙廙彩彩徭徭惘惘慎慎愈愈憎憎慠慠懲懲戴戴揄揄搜搜摒摒敖敖晴晴朗朗"⟩,
  ⟨1, "望望杖杖歹歹殺殺流流滛滛滋滋漢漢瀞瀞煮煮瞧瞧爵爵犯犯猪猪瑱瑱甆甆画画瘝瘝"⟩,
  ⟨1, "瘟瘟益益盛盛直直睊睊着着磌磌窱窱節節类类絛絛練練缾缾者者荒荒華華蝹蝹襁襁"⟩,
  ⟨1, "覆覆視視調調諸諸請請謁謁諾諾諭諭謹謹變變贈贈輸輸遲遲醙醙鉶鉶陼陼難難靖靖"⟩,
  ⟨1, "韛韛響響頋頋頻頻鬒鬒龜龜𢡊𢡊𢡄𢡄𣏕𣏕㮝㮝䀘䀘䀹䀹𥉉𥉉𥳐𥳐𧻓𧻓齃齃龎龎\ufb1d\u05d9"⟩,
  ⟨1, "\ufb1f\u05f2\ufb20\u05e2\ufb21\u05d0\ufb22\u05d3\ufb23\u05d4\ufb24\u05db\ufb25\u05dc\ufb26\u05dd\ufb27\u05e8\ufb28\u05ea﬩+\ufb2a\u05e9\ufb2b\u05e9\ufb2c\u05e9\ufb2d\u05e9\ufb2e\u05d0\ufb2f\u05d0\ufb30\u05d0"⟩,
  ⟨1, "\ufb31\u05d1\ufb32\u05d2\ufb33\u05d3\ufb34\u05d4\ufb35\u05d5\ufb36\u05d6\ufb38\u05d8\ufb39\u05d9\ufb3a\u05da\ufb3b\u05db\ufb3c\u05dc\ufb3e\u05de\ufb40\u05e0\ufb41\u05e1\ufb43\u05e3\ufb44\u05e4\ufb46\u05e6\ufb47\u05e7"⟩,
  ⟨1, "\ufb48\u05e8\ufb49\u05e9\ufb4a\u05ea\ufb4b\u05d5\ufb4c\u05d1\ufb4d\u05db\ufb4e\u05e4\ufb50\u0671\ufb51\u0671\ufb52\u067b\ufb53\u067b\ufb54\u067b\ufb55\u067b\ufb56\u067e\ufb57\u067e\ufb58\u067e\ufb59\u067e\ufb5a\u0680"⟩,
  ⟨1, "\ufb5b\u0680\ufb5c\u0680\ufb5d\u0680\ufb5e\u067a\ufb5f\u067a\ufb60\u067a\ufb61\u067a\ufb62\u067f\ufb63\u067f\ufb64\u067f\ufb65\u067f\ufb66\u0679\ufb67\u0679\ufb68\u0679\ufb69\u0679\ufb6a\u06a4\ufb6b\u06a4\ufb6c\u06a4"⟩,
  ⟨1, "\ufb6d\u06a4\ufb6e\u06a6\ufb6f\u06a6\ufb70\u06a6\ufb71\u06a6\ufb72\u0684\ufb73\u0684\ufb74\u0684\ufb75\u0684\ufb76\u0683\ufb77\u0683\ufb78\u0683\ufb79\u0683\ufb7a\u0686\ufb7b\u0686\ufb7c\u0686\ufb7d\u0686\ufb7e\u0687"⟩,
  ⟨1, "\ufb7f\u0687\ufb80\u0687\ufb81\u0687\ufb82\u068d\ufb83\u068d\ufb84\u068c\ufb85\u068c\ufb86\u068e\ufb87\u068e\ufb88\u0688\ufb89\u0688\ufb8a\u0698\ufb8b\u0698\ufb8c\u0691\ufb8d\u0691\ufb8e\u06a9\ufb8f\u06a9\ufb90\u06a9"⟩,
  ⟨1, "\ufb91\u06a9\ufb92\u06af\ufb93\u06af\ufb94\u06af\ufb95\u06af\ufb96\u06b3\ufb97\u06b3\ufb98\u06b3\ufb99\u06b3\ufb9a\u06b1\ufb9b\u06b1\ufb9c\u06b1\ufb9d\u06b1\ufb9e\u06ba\ufb9f\u06ba\ufba0\u06bb\ufba1\u06bb\ufba2\u06bb"⟩,
  ⟨1, "\ufba3\u06bb\ufba4\u06d5\ufba5\u06d5\ufba6\u06c1\ufba7\u06c1\ufba8\u06c1\ufba9\u06c1\ufbaa\u06be\ufbab\u06be\ufbac\u06be\ufbad\u06be\ufbae\u06d2\ufbaf\u06d2\ufbb0\u06d2\ufbb1\u06d2\ufbd3\u06ad\ufbd4\u06ad\ufbd5\u06ad"⟩,
  ⟨1, "\ufbd6\u06ad\ufbd7\u06c7\ufbd8\u06c7\ufbd9\u06c6\ufbda\u06c6\ufbdb\u06c8\ufbdc\u06c8\ufbde\u06cb\ufbdf\u06cb\ufbe0\u06c5\ufbe1\u06c5\ufbe2\u06c9\ufbe3\u06c9\ufbe4\u06d0\ufbe5\u06d0\ufbe6\u06d0\ufbe7\u06d0\ufbe8\u0649"⟩,
  ⟨1, "\ufbe9\u0649\ufbfc\u06cc\ufbfd\u06cc\ufbfe\u06cc\ufbff\u06cc\ufc5b\u0630\ufc5c\u0631\ufc5d\u0649\ufc5e \ufc5f \ufc60 \ufc61 \ufc62 \ufc63 \ufc90\u0649\ufcd9\u0647\ufcf2\u0640\ufcf3\u0640"⟩,
  ⟨1, "\ufcf4\u0640\ufd3c\u0627\ufd3d\u0627︐,︑、︒。︓:︔;︕!︖?︗〖︘〗︱—︲–︳_︴_︵(︶)"⟩,
  ⟨1, "︷\x7b︸\x7d︹〔︺〕︻【︼】︽《︾》︿〈﹀〉﹁「﹂」﹃『﹄』﹇[﹈]﹉ ﹊ "⟩,
  ⟨1, "﹋ ﹌ ﹍_﹎_﹏_﹐,﹑、﹒.﹔;﹕:﹖?﹗!﹘—﹙(﹚)﹛\x7b﹜\x7d﹝〔"⟩,
  ⟨1, "﹞〕﹟#﹠&﹡*﹢+﹣-﹤<﹥>﹦=﹨\\﹩$﹪%﹫@\ufe70 \ufe71\u0640\ufe72 \ufe74 \ufe76 "⟩,
  ⟨1, "\ufe77\u0640\ufe78 \ufe79\u0640\ufe7a \ufe7b\u0640\ufe7c \ufe7d\u0640\ufe7e \ufe7f\u0640\ufe80\u0621\ufe81\u0627\ufe82\u0627\ufe83\u0627\ufe84\u0627\ufe85\u0648\ufe86\u0648\ufe87\u0627\ufe88\u0627"⟩,
  ⟨1, "\ufe89\u064a\ufe8a\u064a\ufe8b\u064a\ufe8c\u064a\ufe8d\u0627\ufe8e\u0627\ufe8f\u0628\ufe90\u0628\ufe91\u0628\ufe92\u0628\ufe93\u0629\ufe94\u0629\ufe95\u062a\ufe96\u062a\ufe97\u062a\ufe98\u062a\ufe99\u062b\ufe9a\u062b"⟩,
  ⟨1, "\ufe9b\u062b\ufe9c\u062b\ufe9d\u062c\ufe9e\u062c\ufe9f\u062c\ufea0\u062c\ufea1\u062d\ufea2\u062d\ufea3\u062d\ufea4\u062d\ufea5\u062e\ufea6\u062e\ufea7\u062e\ufea8\u062e\ufea9\u062f\ufeaa\u062f\ufeab\u0630\ufeac\u0630"⟩,
  ⟨1, "\ufead\u0631\ufeae\u0631\ufeaf\u0632\ufeb0\u0632\ufeb1\u0633\ufeb2\u0633\ufeb3\u0633\ufeb4\u0633\ufeb5\u0634\ufeb6\u0634\ufeb7\u0634\ufeb8\u0634\ufeb9\u0635\ufeba\u0635\ufebb\u0635\ufebc\u0635\ufebd\u0636\ufebe\u0636"⟩,
  ⟨1, "\ufebf\u0636\ufec0\u0636\ufec1\u0637\ufec2\u0637\ufec3\u0637\ufec4\u0637\ufec5\u0638\ufec6\u0638\ufec7\u0638\ufec8\u0638\ufec9\u0639\ufeca\u0639\ufecb\u0639\ufecc\u0639\ufecd\u063a\ufece\u063a\ufecf\u063a\ufed0\u063a"⟩,
  ⟨1, "\ufed1\u0641\ufed2\u0641\ufed3\u0641\ufed4\u0641\ufed5\u0642\ufed6\u0642\ufed7\u0642\ufed8\u0642\ufed9\u0643\ufeda\u0643\ufedb\u0643\ufedc\u0643\ufedd\u0644\ufede\u0644\ufedf\u0644\ufee0\u0644\ufee1\u0645\ufee2\u0645"⟩,
  ⟨1, "\ufee3\u0645\ufee4\u0645\ufee5\u0646\ufee6\u0646\ufee7\u0646\ufee8\u0646\ufee9\u0647\ufeea\u0647\ufeeb\u0647\ufeec\u0647\ufeed\u0648\ufeee\u0648\ufeef\u0649\ufef0\u0649\ufef1\u064a\ufef2\u064a\ufef3\u064a\ufef4\u064a"⟩,
  ⟨1, "！!＂\"＃#＄$％%＆&＇'（(）)＊*＋+，,－-．.／/０0１1２2"⟩,
  ⟨1, "３3４4５5６6７7８8９9：:；;＜<＝=＞>？?＠@ＡAＢBＣCＤD"⟩,
  ⟨1, "ＥEＦFＧGＨHＩIＪJＫKＬLＭMＮNＯOＰPＱQＲRＳSＴTＵUＶV"⟩,
  ⟨1, "ＷWＸXＹYＺZ［[＼\\］]＾^＿_｀`ａaｂbｃcｄdｅeｆfｇgｈh"⟩,
  ⟨1, "ｉiｊjｋkｌlｍmｎnｏoｐpｑqｒrｓsｔtｕuｖvｗwｘxｙyｚz"⟩,
  ⟨1, "｛\x7b｜|｝\x7d～~｟⦅｠⦆｡。｢「｣」､、･・ｦヲｧァｨィｩゥｪェｫォｬャ"⟩,
  ⟨1, "ｭュｮョｯッｰーｱアｲイｳウｴエｵオｶカｷキｸクｹケｺコｻサｼシｽスｾセ"⟩,
  ⟨1, "ｿソﾀタﾁチﾂツﾃテﾄトﾅナﾆニﾇヌﾈネﾉノﾊハﾋヒﾌフﾍヘﾎホﾏマﾐミ"⟩,
  ⟨1, "ﾑムﾒメﾓモﾔヤﾕユﾖヨﾗラﾘリﾙルﾚレﾛロﾜワﾝンﾠᅠﾡᄀﾢᄁﾣᆪﾤᄂ"⟩,
  ⟨1, "ﾥᆬﾦᆭﾧᄃﾨᄄﾩᄅﾪᆰﾫᆱﾬᆲﾭᆳﾮᆴﾯᆵﾰᄚﾱᄆﾲᄇﾳᄈﾴᄡﾵᄉﾶᄊ"⟩,
  ⟨1, "ﾷᄋﾸᄌﾹᄍﾺᄎﾻᄏﾼᄐﾽᄑﾾᄒￂᅡￃᅢￄᅣￅᅤￆᅥￇᅦￊᅧￋᅨￌᅩￍᅪ"⟩,
  ⟨1, "ￎᅫￏᅬￒᅭￓᅮￔᅯￕᅰￖᅱￗᅲￚᅳￛᅴￜᅵ￠¢￡£￢¬￣ ￤¦￥¥￦₩"⟩,
  ⟨1, "￨│￩←￪↑￫→￬↓￭■￮○𐞁ː𐞂ˑ𐞃æ𐞄ʙ𐞅ɓ𐞇ʣ𐞈ꭦ𐞉ʥ𐞊ʤ𐞋ɖ𐞌ɗ"⟩,
  ⟨1, "𐞍ᶑ𐞎ɘ𐞏ɞ𐞐ʩ𐞑ɤ𐞒ɢ𐞓ɠ𐞔ʛ𐞕ħ𐞖ʜ𐞗ɧ𐞘ʄ𐞙ʪ𐞚ʫ𐞛ɬ𐞜𝼄𐞝ꞎ𐞞ɮ"⟩,
  ⟨1, "𐞟𝼅𐞠ʎ𐞡𝼆𐞢ø𐞣ɶ𐞤ɷ𐞥q𐞦ɺ𐞧𝼈𐞨ɽ𐞩ɾ𐞪ʀ𐞫ʨ𐞬ʦ𐞭ꭧ𐞮ʧ𐞯ʈ𐞰ⱱ"⟩,
  ⟨1, "𐞲ʏ𐞳ʡ𐞴ʢ𐞵ʘ𐞶ǀ𐞷ǁ𐞸ǂ𐞹𝼊𐞺𝼞𑂚𑂙𑂜𑂛𑂫𑂥𝅗𝅥𝅗𝅘𝅥𝅘𝅘𝅥𝅮𝅘𝅘𝅥𝅯𝅘𝅘𝅥𝅰𝅘𝅘𝅥𝅱𝅘"⟩,
  ⟨1, "𝅘𝅥𝅲𝅘𝆹𝅥𝆹𝆺𝅥𝆺𝆹𝅥𝅮𝆹𝆺𝅥𝅮𝆺𝆹𝅥𝅯𝆹𝆺𝅥𝅯𝆺𝐀A𝐁B𝐂C𝐃D𝐄E𝐅F𝐆G𝐇H𝐈I𝐉J𝐊K"⟩,
  ⟨1, "𝐋L𝐌M𝐍N𝐎O𝐏P𝐐Q𝐑R𝐒S𝐓T𝐔U𝐕V𝐖W𝐗X𝐘Y𝐙Z𝐚a𝐛b𝐜c"⟩,
  ⟨1, "𝐝d𝐞e𝐟f𝐠g𝐡h𝐢i𝐣j𝐤k𝐥l𝐦m𝐧n𝐨o𝐩p𝐪q𝐫r𝐬s𝐭t𝐮u"⟩,
  ⟨1, "𝐯v𝐰w𝐱x𝐲y𝐳z𝐴A𝐵B𝐶C𝐷D𝐸E𝐹F𝐺G𝐻H𝐼I𝐽J𝐾K𝐿L𝑀M"⟩,
  ⟨1, "𝑁N𝑂O𝑃P𝑄Q𝑅R𝑆S𝑇T𝑈U𝑉V𝑊W𝑋X𝑌Y𝑍Z𝑎a𝑏b𝑐c𝑑d𝑒e"⟩,
  ⟨1, "𝑓f𝑔g𝑖i𝑗j𝑘k𝑙l𝑚m𝑛n𝑜o𝑝p𝑞q𝑟r𝑠s𝑡t𝑢u𝑣v𝑤w𝑥x"⟩,
  ⟨1, "𝑦y𝑧z𝑨A𝑩B𝑪C𝑫D𝑬E𝑭F𝑮G𝑯H𝑰I𝑱J𝑲K𝑳L𝑴M𝑵N𝑶O𝑷P"⟩,
  ⟨1, "𝑸Q𝑹R𝑺S𝑻T𝑼U𝑽V𝑾W𝑿X𝒀Y𝒁Z𝒂a𝒃b𝒄c𝒅d𝒆e𝒇f𝒈g𝒉h"⟩,
  ⟨1, "𝒊i𝒋j𝒌k𝒍l𝒎m𝒏n𝒐o𝒑p𝒒q𝒓r𝒔s𝒕t𝒖u𝒗v𝒘w𝒙x𝒚y𝒛z"⟩,
  ⟨1, "𝒜A𝒞C𝒟D𝒢G𝒥J𝒦K𝒩N𝒪O𝒫P𝒬Q𝒮S𝒯T𝒰U𝒱V𝒲W𝒳X𝒴Y𝒵Z"⟩,
  ⟨1, "𝒶a𝒷b𝒸c𝒹d𝒻f𝒽h𝒾i𝒿j𝓀k𝓁l𝓂m𝓃n𝓅p𝓆q𝓇r𝓈s𝓉t𝓊u"⟩,
  ⟨1, "𝓋v𝓌w𝓍x𝓎y𝓏z𝓐A𝓑B𝓒C𝓓D𝓔E𝓕F𝓖G𝓗H𝓘I𝓙J𝓚K𝓛L𝓜M"⟩,
  ⟨1, "𝓝N𝓞O𝓟P𝓠Q𝓡R𝓢S𝓣T𝓤U𝓥V𝓦W𝓧X𝓨Y𝓩Z𝓪a𝓫b𝓬c𝓭d𝓮e"⟩,
  ⟨1, "𝓯f𝓰g𝓱h𝓲i𝓳j𝓴k𝓵l𝓶m𝓷n𝓸o𝓹p𝓺q𝓻r𝓼s𝓽t𝓾u𝓿v𝔀w"⟩,
  ⟨1, "𝔁x𝔂y𝔃z𝔄A𝔅B𝔇D𝔈E𝔉F𝔊G𝔍J𝔎K𝔏L𝔐M𝔑N𝔒O𝔓P𝔔Q𝔖S"⟩,
  ⟨1, "𝔗T𝔘U𝔙V𝔚W𝔛X𝔜Y𝔞a𝔟b𝔠c𝔡d𝔢e𝔣f𝔤g𝔥h𝔦i𝔧j𝔨k𝔩l"⟩,
  ⟨1, "𝔪m𝔫n𝔬o𝔭p𝔮q𝔯r𝔰s𝔱t𝔲u𝔳v𝔴w𝔵x𝔶y𝔷z𝔸A𝔹B𝔻D𝔼E"⟩,
  ⟨1, "𝔽F𝔾G𝕀I𝕁J𝕂K𝕃L𝕄M𝕆O𝕊S𝕋T𝕌U𝕍V𝕎W𝕏X𝕐Y𝕒a𝕓b𝕔c"⟩,
  ⟨1, "𝕕d𝕖e𝕗f𝕘g𝕙h𝕚i𝕛j𝕜k𝕝l𝕞m𝕟n𝕠o𝕡p𝕢q𝕣r𝕤s𝕥t𝕦u"⟩,
  ⟨1, "𝕧v𝕨w𝕩x𝕪y𝕫z𝕬A𝕭B𝕮C𝕯D𝕰E𝕱F𝕲G𝕳H𝕴I𝕵J𝕶K𝕷L𝕸M"⟩,
  ⟨1, "𝕹N𝕺O𝕻P𝕼Q𝕽R𝕾S𝕿T𝖀U𝖁V𝖂W𝖃X𝖄Y𝖅Z𝖆a𝖇b𝖈c𝖉d𝖊e"⟩,
  ⟨1, "𝖋f𝖌g𝖍h𝖎i𝖏j𝖐k𝖑l𝖒m𝖓n𝖔o𝖕p𝖖q𝖗r𝖘s𝖙t𝖚u𝖛v𝖜w"⟩,
  ⟨1, "𝖝x𝖞y𝖟z𝖠A𝖡B𝖢C𝖣D𝖤E𝖥F𝖦G𝖧H𝖨I𝖩J𝖪K𝖫L𝖬M𝖭N𝖮O"⟩,
  ⟨1, "𝖯P𝖰Q𝖱R𝖲S𝖳T𝖴U𝖵V𝖶W𝖷X𝖸Y𝖹Z𝖺a𝖻b𝖼c𝖽d𝖾e𝖿f𝗀g"⟩,
  ⟨1, "𝗁h𝗂i𝗃j𝗄k𝗅l𝗆m𝗇n𝗈o𝗉p𝗊q𝗋r𝗌s𝗍t𝗎u𝗏v𝗐w𝗑x𝗒y"⟩,
  ⟨1, "𝗓z𝗔A𝗕B𝗖C𝗗D𝗘E𝗙F𝗚G𝗛H𝗜I𝗝J𝗞K𝗟L𝗠M𝗡N𝗢O𝗣P𝗤Q"⟩,
  ⟨1, "𝗥R𝗦S𝗧T𝗨U𝗩V𝗪W𝗫X𝗬Y𝗭Z𝗮a𝗯b𝗰c𝗱d𝗲e𝗳f𝗴g𝗵h𝗶i"⟩,
  ⟨1, "𝗷j𝗸k𝗹l𝗺m𝗻n𝗼o𝗽p𝗾q𝗿r𝘀s𝘁t𝘂u𝘃v𝘄w𝘅x𝘆y𝘇z𝘈A"⟩,
  ⟨1, "𝘉B𝘊C𝘋D𝘌E𝘍F𝘎G𝘏H𝘐I𝘑J𝘒K𝘓L𝘔M𝘕N𝘖O𝘗P𝘘Q𝘙R𝘚S"⟩,
  ⟨1, "𝘛T𝘜U𝘝V𝘞W𝘟X𝘠Y𝘡Z𝘢a𝘣b𝘤c𝘥d𝘦e𝘧f𝘨g𝘩h𝘪i𝘫j𝘬k"⟩,
  ⟨1, "𝘭l𝘮m𝘯n𝘰o𝘱p𝘲q𝘳r𝘴s𝘵t𝘶u𝘷v𝘸w𝘹x𝘺y𝘻z𝘼A𝘽B𝘾C"⟩,
  ⟨1, "𝘿D𝙀E𝙁F𝙂G𝙃H𝙄I𝙅J𝙆K𝙇L𝙈M𝙉N𝙊O𝙋P𝙌Q𝙍R𝙎S𝙏T𝙐U"⟩,
  ⟨1, "𝙑V𝙒W𝙓X𝙔Y𝙕Z𝙖a𝙗b𝙘c𝙙d𝙚e𝙛f𝙜g𝙝h𝙞i𝙟j𝙠k𝙡l𝙢m"⟩,
  ⟨1, "𝙣n𝙤o𝙥p𝙦q𝙧r𝙨s𝙩t𝙪u𝙫v𝙬w𝙭x𝙮y𝙯z𝙰A𝙱B𝙲C𝙳D𝙴E"⟩,
  ⟨1, "𝙵F𝙶G𝙷H𝙸I𝙹J𝙺K𝙻L𝙼M𝙽N𝙾O𝙿P𝚀Q𝚁R𝚂S𝚃T𝚄U𝚅V𝚆W"⟩,
  ⟨1, "𝚇X𝚈Y𝚉Z𝚊a𝚋b𝚌c𝚍d𝚎e𝚏f𝚐g𝚑h𝚒i𝚓j𝚔k𝚕l𝚖m𝚗n𝚘o"⟩,
  ⟨1, "𝚙p𝚚q𝚛r𝚜s𝚝t𝚞u𝚟v𝚠w𝚡x𝚢y𝚣z𝚤ı𝚥ȷ𝚨Α𝚩Β𝚪Γ𝚫Δ𝚬Ε"⟩,
  ⟨1, "𝚭Ζ𝚮Η𝚯Θ𝚰Ι𝚱Κ𝚲Λ𝚳Μ𝚴Ν𝚵Ξ𝚶Ο𝚷Π𝚸Ρ𝚹Θ𝚺Σ𝚻Τ𝚼Υ𝚽Φ𝚾Χ"⟩,
  ⟨1, "𝚿Ψ𝛀Ω𝛁∇𝛂α𝛃β𝛄γ𝛅δ𝛆ε𝛇ζ𝛈η𝛉θ𝛊ι𝛋κ𝛌λ𝛍μ𝛎ν𝛏ξ𝛐ο"⟩,
  ⟨1, "𝛑π𝛒ρ𝛓ς𝛔σ𝛕τ𝛖υ𝛗φ𝛘χ𝛙ψ𝛚ω𝛛∂𝛜ε𝛝θ𝛞κ𝛟φ𝛠ρ𝛡π𝛢Α"⟩,
  ⟨1, "𝛣Β𝛤Γ𝛥Δ𝛦Ε𝛧Ζ𝛨Η𝛩Θ𝛪Ι𝛫Κ𝛬Λ𝛭Μ𝛮Ν𝛯Ξ𝛰Ο𝛱Π𝛲Ρ𝛳Θ𝛴Σ"⟩,
  ⟨1, "𝛵Τ𝛶Υ𝛷Φ𝛸Χ𝛹Ψ𝛺Ω𝛻∇𝛼α𝛽β𝛾γ𝛿δ𝜀ε𝜁ζ𝜂η𝜃θ𝜄ι𝜅κ𝜆λ"⟩,
  ⟨1, "𝜇μ𝜈ν𝜉ξ𝜊ο𝜋π𝜌ρ𝜍ς𝜎σ𝜏τ𝜐υ𝜑φ𝜒χ𝜓ψ𝜔ω𝜕∂𝜖ε𝜗θ𝜘κ"⟩,
  ⟨1, "𝜙φ𝜚ρ𝜛π𝜜Α𝜝Β𝜞Γ𝜟Δ𝜠Ε𝜡Ζ𝜢Η𝜣Θ𝜤Ι𝜥Κ𝜦Λ𝜧Μ𝜨Ν𝜩Ξ𝜪Ο"⟩,
  ⟨1, "𝜫Π𝜬Ρ𝜭Θ𝜮Σ𝜯Τ𝜰Υ𝜱Φ𝜲Χ𝜳Ψ𝜴Ω𝜵∇𝜶α𝜷β𝜸γ𝜹δ𝜺ε𝜻ζ𝜼η"⟩,
  ⟨1, "𝜽θ𝜾ι𝜿κ𝝀λ𝝁μ𝝂ν𝝃ξ𝝄ο𝝅π𝝆ρ𝝇ς𝝈σ𝝉τ𝝊υ𝝋φ𝝌χ𝝍ψ𝝎ω"⟩,
  ⟨1, "𝝏∂𝝐ε𝝑θ𝝒κ𝝓φ𝝔ρ𝝕π𝝖Α𝝗Β𝝘Γ𝝙Δ𝝚Ε𝝛Ζ𝝜Η𝝝Θ𝝞Ι𝝟Κ𝝠Λ"⟩,
  ⟨1, "𝝡Μ𝝢Ν𝝣Ξ𝝤Ο𝝥Π𝝦Ρ𝝧Θ𝝨Σ𝝩Τ𝝪Υ𝝫Φ𝝬Χ𝝭Ψ𝝮Ω𝝯∇𝝰α𝝱β𝝲γ"⟩,
  ⟨1, "𝝳δ𝝴ε𝝵ζ𝝶η𝝷θ𝝸ι𝝹κ𝝺λ𝝻μ𝝼ν𝝽ξ𝝾ο𝝿π𝞀ρ𝞁ς𝞂σ𝞃τ𝞄υ"⟩,
  ⟨1, "𝞅φ𝞆χ𝞇ψ𝞈ω𝞉∂𝞊ε𝞋θ𝞌κ𝞍φ𝞎ρ𝞏π𝞐Α𝞑Β𝞒Γ𝞓Δ𝞔Ε𝞕Ζ𝞖Η"⟩,
  ⟨1, "𝞗Θ𝞘Ι𝞙Κ𝞚Λ𝞛Μ𝞜Ν𝞝Ξ𝞞Ο𝞟Π𝞠Ρ𝞡Θ𝞢Σ𝞣Τ𝞤Υ𝞥Φ𝞦Χ𝞧Ψ𝞨Ω"⟩,
  ⟨1, "𝞩∇𝞪α𝞫β𝞬γ𝞭δ𝞮ε𝞯ζ𝞰η𝞱θ𝞲ι𝞳κ𝞴λ𝞵μ𝞶ν𝞷ξ𝞸ο𝞹π𝞺ρ"⟩,
  ⟨1, "𝞻ς𝞼σ𝞽τ𝞾υ𝞿φ𝟀χ𝟁ψ𝟂ω𝟃∂𝟄ε𝟅θ𝟆κ𝟇φ𝟈ρ𝟉π𝟊Ϝ𝟋ϝ𝟎0"⟩,
  ⟨1, "𝟏1𝟐2𝟑3𝟒4𝟓5𝟔6𝟕7𝟖8𝟗9𝟘0𝟙1𝟚2𝟛3𝟜4𝟝5𝟞6𝟟7𝟠8"⟩,
  ⟨1, "𝟡9𝟢0𝟣1𝟤2𝟥3𝟦4𝟧5𝟨6𝟩7𝟪8𝟫9𝟬0𝟭1𝟮2𝟯3𝟰4𝟱5𝟲6"⟩,
  ⟨1, "𝟳7𝟴8𝟵9𝟶0𝟷1𝟸2𝟹3𝟺4𝟻5𝟼6𝟽7𝟾8𝟿9𞸀\u0627𞸁\u0628𞸂\u062c𞸃\u062f𞸅\u0648"⟩,
  ⟨1, "𞸆\u0632𞸇\u062d𞸈\u0637𞸉\u064a𞸊\u0643𞸋\u0644𞸌\u0645𞸍\u0646𞸎\u0633𞸏\u0639𞸐\u0641𞸑\u0635𞸒\u0642𞸓\u0631𞸔\u0634𞸕\u062a𞸖\u062b𞸗\u062e"⟩,
  ⟨1, "𞸘\u0630𞸙\u0636𞸚\u0638𞸛\u063a𞸜\u066e𞸝\u06ba𞸞\u06a1𞸟\u066f𞸡\u0628𞸢\u062c𞸤\u0647𞸧\u062d𞸩\u064a𞸪\u0643𞸫\u0644𞸬\u0645𞸭\u0646𞸮\u0633"⟩,
  ⟨1, "𞸯\u0639𞸰\u0641𞸱\u0635𞸲\u0642𞸴\u0634𞸵\u062a𞸶\u062b𞸷\u062e𞸹\u0636𞸻\u063a𞹂\u062c𞹇\u062d𞹉\u064a𞹋\u0644𞹍\u0646𞹎\u0633𞹏\u0639𞹑\u0635"⟩,
  ⟨1, "𞹒\u0642𞹔\u0634𞹗\u062e𞹙\u0636𞹛\u063a𞹝\u06ba𞹟\u066f𞹡\u0628𞹢\u062c𞹤\u0647𞹧\u062d𞹨\u0637𞹩\u064a𞹪\u0643𞹬\u0645𞹭\u0646𞹮\u0633𞹯\u0639"⟩,
  ⟨1, "𞹰\u0641𞹱\u0635𞹲\u0642𞹴\u0634𞹵\u062a𞹶\u062b𞹷\u062e𞹹\u0636𞹺\u0638𞹻\u063a𞹼\u066e𞹾\u06a1𞺀\u0627𞺁\u0628𞺂\u062c𞺃\u062f𞺄\u0647𞺅\u0648"⟩,
  ⟨1, "𞺆\u0632𞺇\u062d𞺈\u0637𞺉\u064a𞺋\u0644𞺌\u0645𞺍\u0646𞺎\u0633𞺏\u0639𞺐\u0641𞺑\u0635𞺒\u0642𞺓\u0631𞺔\u0634𞺕\u062a𞺖\u062b𞺗\u062e𞺘\u0630"⟩,
  ⟨1, "𞺙\u0636𞺚\u0638𞺛\u063a𞺡\u0628𞺢\u062c𞺣\u062f𞺥\u0648𞺦\u0632𞺧\u062d𞺨\u0637𞺩\u064a𞺫\u0644𞺬\u0645𞺭\u0646𞺮\u0633𞺯\u0639𞺰\u0641𞺱\u0635"⟩,
  ⟨1, "𞺲\u0642𞺳\u0631𞺴\u0634𞺵\u062a𞺶\u062b𞺷\u062e𞺸\u0630𞺹\u0636𞺺\u0638𞺻\u063a🄫C🄬R🄰A🄱B🄲C🄳D🄴E🄵F"⟩,
  ⟨1, "🄶G🄷H🄸I🄹J🄺K🄻L🄼M🄽N🄾O🄿P🅀Q🅁R🅂S🅃T🅄U🅅V🅆W🅇X"⟩,
  ⟨1, "🅈Y🅉Z🈂サ🈐手🈑字🈒双🈓テ🈔二🈕多🈖解🈗天🈘交🈙映🈚無🈛料🈜前🈝後🈞再"⟩,
  ⟨1, "🈟新🈠初🈡終🈢生🈣販🈤声🈥吹🈦演🈧投🈨捕🈩一🈪三🈫遊🈬左🈭中🈮右🈯指🈰走"⟩,
  ⟨1, "🈱打🈲禁🈳空🈴合🈵満🈶有🈷月🈸申🈹割🈺営🈻配🉐得🉑可🯰0🯱1🯲2🯳3🯴4"⟩,
  ⟨1, "🯵5🯶6🯷7🯸8🯹9丽丽丸丸乁乁𠄢𠄢你你侮侮侻侻倂倂偺偺備備僧僧像像㒞㒞"⟩,
  ⟨1, "𠘺𠘺免免兔兔兤兤具具𠔜𠔜㒹㒹內內再再𠕋𠕋冗冗冤冤仌仌冬冬况况𩇟𩇟凵凵刃刃"⟩,
  ⟨1, "㓟㓟刻刻剆剆割割剷剷㔕㔕勇勇勉勉勤勤勺勺包包匆匆北北卉卉卑卑博博即即卽卽"⟩,
  ⟨1, "卿卿卿卿卿卿𠨬𠨬灰灰及及叟叟𠭣𠭣叫叫叱叱吆吆咞咞吸吸呈呈周周咢咢哶哶唐唐"⟩,
  ⟨1, "啓啓啣啣善善善善喙喙喫喫喳喳嗂嗂圖圖嘆嘆圗圗噑噑噴噴切切壮壮城城埴埴堍堍"⟩,
  ⟨1, "型型堲堲報報墬墬𡓤𡓤売売壷壷夆夆多多夢夢奢奢𡚨𡚨𡛪𡛪姬姬娛娛娧娧姘姘婦婦"⟩,
  ⟨1, "㛮㛮㛼㛼嬈嬈嬾嬾嬾嬾𡧈𡧈寃寃寘寘寧寧寳寳𡬘𡬘寿寿将将当当尢尢㞁㞁屠屠屮屮"⟩,
  ⟨1, "峀峀岍岍𡷤𡷤嵃嵃𡷦𡷦嵮嵮嵫嵫嵼嵼巡巡巢巢㠯㠯巽巽帨帨帽帽幩幩㡢㡢𢆃𢆃㡼㡼"⟩,
  ⟨1, "庰庰庳庳庶庶廊廊𪎒𪎒廾廾𢌱𢌱𢌱𢌱舁舁弢弢弢弢㣇㣇𣊸𣊸𦇚𦇚形形彫彫㣣㣣徚徚"⟩,
  ⟨1, "忍忍志志忹忹悁悁㤺㤺㤜㤜悔悔𢛔𢛔惇惇慈慈慌慌慎慎慌慌慺慺憎憎憲憲憤憤憯憯"⟩,
  ⟨1, "懞懞懲懲懶懶成成戛戛扝扝抱抱拔拔捐捐𢬌𢬌挽挽拼拼捨捨掃掃揤揤𢯱𢯱搢搢揅揅"⟩,
  ⟨1, "掩掩㨮㨮摩摩摾摾撝撝摷摷㩬㩬敏敏敬敬𣀊𣀊旣旣書書晉晉㬙㬙暑暑㬈㬈㫤㫤冒冒"⟩,
  ⟨1, "冕冕最最暜暜肭肭䏙䏙朗朗望望朡朡杞杞杓杓𣏃𣏃㭉㭉柺柺枅枅桒桒梅梅𣑭𣑭梎梎"⟩,
  ⟨1, "栟栟椔椔㮝㮝楂楂榣榣槪槪檨檨𣚣𣚣櫛櫛㰘㰘次次𣢧𣢧歔歔㱎㱎歲歲殟殟殺殺殻殻"⟩,
  ⟨1, "𣪍𣪍𡴋𡴋𣫺𣫺汎汎𣲼𣲼沿沿泍泍汧汧洖洖派派海海流流浩浩浸浸涅涅𣴞𣴞洴洴港港"⟩,
  ⟨1, "湮湮㴳㴳滋滋滇滇𣻑𣻑淹淹潮潮𣽞𣽞𣾎𣾎濆濆瀹瀹瀞瀞瀛瀛㶖㶖灊灊災災灷灷炭炭"⟩,
  ⟨1, "𠔥𠔥煅煅𤉣𤉣熜熜𤎫𤎫爨爨爵爵牐牐𤘈𤘈犀犀犕犕𤜵𤜵𤠔𤠔獺獺王王㺬㺬玥玥㺸㺸"⟩,
  ⟨1, "㺸㺸瑇瑇瑜瑜瑱瑱璅璅瓊瓊㼛㼛甤甤𤰶𤰶甾甾𤲒𤲒異異𢆟𢆟瘐瘐𤾡𤾡𤾸𤾸𥁄𥁄㿼㿼"⟩,
  ⟨1, "䀈䀈直直𥃳𥃳𥃲𥃲𥄙𥄙𥄳𥄳眞眞真真真真睊睊䀹䀹瞋瞋䁆䁆䂖䂖𥐝𥐝硎硎碌碌磌磌"⟩,
  ⟨1, "䃣䃣𥘦𥘦祖祖𥚚𥚚𥛅𥛅福福秫秫䄯䄯穀穀穊穊穏穏𥥼𥥼𥪧𥪧𥪧𥪧竮竮䈂䈂𥮫𥮫篆篆"⟩,
  ⟨1, "築築䈧䈧𥲀𥲀糒糒䊠䊠糨糨糣糣紀紀𥾆𥾆絣絣䌁䌁緇緇縂縂繅繅䌴䌴𦈨𦈨𦉇𦉇䍙䍙"⟩,
  ⟨1, "𦋙𦋙罺罺𦌾𦌾羕羕翺翺者者𦓚𦓚𦔣𦔣聠聠𦖨𦖨聰聰𣍟𣍟䏕䏕育育脃脃䐋䐋脾脾媵媵"⟩,
  ⟨1, "𦞧𦞧𦞵𦞵𣎓𣎓𣎜𣎜舁舁舄舄辞辞䑫䑫芑芑芋芋芝芝劳劳花花芳芳芽芽苦苦𦬼𦬼若若"⟩,
  ⟨1, "茝茝荣荣莭莭茣茣莽莽菧菧著著荓荓菊菊菌菌菜菜𦰶𦰶𦵫𦵫𦳕𦳕䔫䔫蓱蓱蓳蓳蔖蔖"⟩,
  ⟨1, "𧏊𧏊蕤蕤𦼬𦼬䕝䕝䕡䕡𦾱𦾱𧃒𧃒䕫䕫虐虐虜虜虧虧虩虩蚩蚩蚈蚈蜎蜎蛢蛢蝹蝹蜨蜨"⟩,
  ⟨1, "蝫蝫螆螆䗗䗗蟡蟡蠁蠁䗹䗹衠衠衣衣𧙧𧙧裗裗裞裞䘵䘵裺裺㒻㒻𧢮𧢮𧥦𧥦䚾䚾䛇䛇"⟩,
  ⟨1, "誠誠諭諭變變豕豕𧲨𧲨貫貫賁賁贛贛起起𧼯𧼯𠠄𠠄跋跋趼趼跰跰𠣞𠣞軔軔輸輸𨗒𨗒"⟩,
  ⟨1, "𨗭𨗭邔邔郱郱鄑鄑𨜮𨜮鄛鄛鈸鈸鋗鋗鋘鋘鉼鉼鏹鏹鐕鐕𨯺𨯺開開䦕䦕閷閷𨵷𨵷䧦䧦"⟩,
  ⟨1, "雃雃嶲嶲霣霣𩅅𩅅𩈚𩈚䩮䩮䩶䩶韠韠𩐊𩐊䪲䪲𩒖𩒖頋頋頋頋頩頩𩖶𩖶飢飢䬳䬳餩餩"⟩,
  ⟨1, "馧馧駂駂駾駾䯎䯎𩬰𩬰鬒鬒鱀鱀鳽鳽䳎䳎䳭䳭鵧鵧𪃎𪃎䳸䳸𪄅𪄅𪈎𪈎𪊑𪊑麻麻䵖䵖"⟩,
  ⟨1, "黹黹黾黾鼅鼅鼏鼏鼖鼖鼻鼻𪘀𪘀"⟩,
  ⟨2, "ĲIJĳijĿL·ŀl·ŉʼnǄDZǅDzǆdzǇLJǈLjǉljǊNJ"⟩,
  ⟨2, "ǋNjǌnjǱDZǲDzǳdzևեւ\u0675\u0627\u0674\u0676\u0648\u0674\u0677\u06c7\u0674\u0678\u064a\u0674\u09cb\u09c7\u09be\u09cc\u09c7\u09d7"⟩,
  ⟨2, "\u0b48\u0b47\u0b56\u0b4b\u0b47\u0b3e\u0b4c\u0b47\u0b57ஔஒ\u0bd7\u0bca\u0bc6\u0bbe\u0bcb\u0bc7\u0bbe\u0bcc\u0bc6\u0bd7\u0cc0\u0cbf\u0cd5\u0cc7\u0cc6\u0cd5\u0cc8\u0cc6\u0cd6\u0cca\u0cc6\u0cc2\u0d4a\u0d46\u0d3e"⟩,
  ⟨2, "\u0d4b\u0d47\u0d3e\u0d4c\u0d46\u0d57\u0ddc\u0dd9\u0dcf\u0ddd\u0dd9\u0dcf\u0dde\u0dd9\u0ddfำ\u0e4dาຳ\u0ecdາໜຫນໝຫມགྷག\u0fb7ཌྷཌ\u0fb7དྷད\u0fb7"⟩,
  ⟨2, "བྷབ\u0fb7ཛྷཛ\u0fb7ཀྵཀ\u0fb5\u0f93\u0f92\u0fb7\u0f9d\u0f9c\u0fb7\u0fa2\u0fa1\u0fb7\u0fa7\u0fa6\u0fb7\u0fac\u0fab\u0fb7\u0fb9\u0f90\u0fb5ဦဥ\u102eᬆᬅ\u1b35ᬈᬇ\u1b35"⟩,
  ⟨2, "ᬊᬉ\u1b35ᬌᬋ\u1b35ᬎᬍ\u1b35ᬒᬑ\u1b35\u1b3b\u1b3a\u1b35\u1b3d\u1b3c\u1b35\u1b40\u1b3e\u1b35\u1b41\u1b3f\u1b35\u1b43\u1b42\u1b35ẚaʾ‥..″′′"⟩,
  ⟨2, "‶‵‵‼!!⁇??⁈?!⁉!?₨Rs℃°C℉°F№No℠SM™TM⅟1⁄"⟩,
  ⟨2, "ⅡIIⅣIVⅥVIⅨIXⅪXIⅱiiⅳivⅵviⅸixⅺxi∬∫∫∯∮∮"⟩,
  ⟨2, "⑩10⑪11⑫12⑬13⑭14⑮15⑯16⑰17⑱18⑲19⑳20⒈1."⟩,
  ⟨2, "⒉2.⒊3.⒋4.⒌5.⒍6.⒎7.⒏8.⒐9.⩵==ゟよりヿコト㉑21"⟩,
  ⟨2, "㉒22㉓23㉔24㉕25㉖26㉗27㉘28㉙29㉚30㉛31㉜32㉝33"⟩,
  ⟨2, "㉞34㉟35㉮가㉯나㉰다㉱라㉲마㉳바㉴사㉵아㉶자㉷차"⟩,
  ⟨2, "㉸카㉹타㉺파㉻하㉾우㊱36㊲37㊳38㊴39㊵40㊶41㊷42"⟩,
  ⟨2, "㊸43㊹44㊺45㊻46㊼47㊽48㊾49㊿50㋀1月㋁2月㋂3月㋃4月"⟩,
  ⟨2, "㋄5月㋅6月㋆7月㋇8月㋈9月㋌Hg㋎eV㋿令和㌐キカ㌔キロ㌥テシ㌦トル"⟩,
  ⟨2, "㌧トン㌨ナノ㌰ヒコ㌱ヒル㌷ヘソ㌿ホン㍉ミリ㍋メカ㍒リラ㍕レム㍘0点㍙1点"⟩,
  ⟨2, "㍚2点㍛3点㍜4点㍝5点㍞6点㍟7点㍠8点㍡9点㍲da㍳AU㍵oV㍶pc"⟩,
  ⟨2, "㍷dm㍺IU㍻平成㍼昭和㍽大正㍾明治㎀pA㎁nA㎂μA㎃mA㎄kA㎅KB"⟩,
  ⟨2, "㎆MB㎇GB㎊pF㎋nF㎌μF㎍μg㎎mg㎏kg㎐Hz㎕μl㎖ml㎗dl"⟩,
  ⟨2, "㎘kl㎙fm㎚nm㎛μm㎜mm㎝cm㎞km㎡m2㎥m3㎩Pa㎰ps㎱ns"⟩,
  ⟨2, "㎲μs㎳ms㎴pV㎵nV㎶μV㎷mV㎸kV㎹MV㎺pW㎻nW㎼μW㎽mW"⟩,
  ⟨2, "㎾kW㎿MW㏀kΩ㏁MΩ㏃Bq㏄cc㏅cd㏈dB㏉Gy㏊ha㏋HP㏌in"⟩,
  ⟨2, "㏍KK㏎KM㏏kt㏐lm㏑ln㏓lx㏔mb㏗PH㏚PR㏛sr㏜Sv㏝Wb"⟩,
  ⟨2, "㏠1日㏡2日㏢3日㏣4日㏤5日㏥6日㏦7日㏧8日㏨9日ﬀffﬁfiﬂfl"⟩,
  ⟨2, "ﬅstﬆstﬓմնﬔմեﬕմիﬖվնﬗմխ\ufb4f\u05d0\u05dc\ufbdd\u06c7\u0674\ufbea\u064a\u0627\ufbeb\u064a\u0627\ufbec\u064a\u06d5"⟩,
  ⟨2, "\ufbed\u064a\u06d5\ufbee\u064a\u0648\ufbef\u064a\u0648\ufbf0\u064a\u06c7\ufbf1\u064a\u06c7\ufbf2\u064a\u06c6\ufbf3\u064a\u06c6\ufbf4\u064a\u06c8\ufbf5\u064a\u06c8\ufbf6\u064a\u06d0\ufbf7\u064a\u06d0\ufbf8\u064a\u06d0"⟩,
  ⟨2, "\ufbf9\u064a\u0649\ufbfa\u064a\u0649\ufbfb\u064a\u0649\ufc00\u064a\u062c\ufc01\u064a\u062d\ufc02\u064a\u0645\ufc03\u064a\u0649\ufc04\u064a\u064a\ufc05\u0628\u062c\ufc06\u0628\u062d\ufc07\u0628\u062e\ufc08\u0628\u0645"⟩,
  ⟨2, "\ufc09\u0628\u0649\ufc0a\u0628\u064a\ufc0b\u062a\u062c\ufc0c\u062a\u062d\ufc0d\u062a\u062e\ufc0e\u062a\u0645\ufc0f\u062a\u0649\ufc10\u062a\u064a\ufc11\u062b\u062c\ufc12\u062b\u0645\ufc13\u062b\u0649\ufc14\u062b\u064a"⟩,
  ⟨2, "\ufc15\u062c\u062d\ufc16\u062c\u0645\ufc17\u062d\u062c\ufc18\u062d\u0645\ufc19\u062e\u062c\ufc1a\u062e\u062d\ufc1b\u062e\u0645\ufc1c\u0633\u062c\ufc1d\u0633\u062d\ufc1e\u0633\u062e\ufc1f\u0633\u0645\ufc20\u0635\u062d"⟩,
  ⟨2, "\ufc21\u0635\u0645\ufc22\u0636\u062c\ufc23\u0636\u062d\ufc24\u0636\u062e\ufc25\u0636\u0645\ufc26\u0637\u062d\ufc27\u0637\u0645\ufc28\u0638\u0645\ufc29\u0639\u062c\ufc2a\u0639\u0645\ufc2b\u063a\u062c\ufc2c\u063a\u0645"⟩,
  ⟨2, "\ufc2d\u0641\u062c\ufc2e\u0641\u062d\ufc2f\u0641\u062e\ufc30\u0641\u0645\ufc31\u0641\u0649\ufc32\u0641\u064a\ufc33\u0642\u062d\ufc34\u0642\u0645\ufc35\u0642\u0649\ufc36\u0642\u064a\ufc37\u0643\u0627\ufc38\u0643\u062c"⟩,
  ⟨2, "\ufc39\u0643\u062d\ufc3a\u0643\u062e\ufc3b\u0643\u0644\ufc3c\u0643\u0645\ufc3d\u0643\u0649\ufc3e\u0643\u064a\ufc3f\u0644\u062c\ufc40\u0644\u062d\ufc41\u0644\u062e\ufc42\u0644\u0645\ufc43\u0644\u0649\ufc44\u0644\u064a"⟩,
  ⟨2, "\ufc45\u0645\u062c\ufc46\u0645\u062d\ufc47\u0645\u062e\ufc48\u0645\u0645\ufc49\u0645\u0649\ufc4a\u0645\u064a\ufc4b\u0646\u062c\ufc4c\u0646\u062d\ufc4d\u0646\u062e\ufc4e\u0646\u0645\ufc4f\u0646\u0649\ufc50\u0646\u064a"⟩,
  ⟨2, "\ufc51\u0647\u062c\ufc52\u0647\u0645\ufc53\u0647\u0649\ufc54\u0647\u064a\ufc55\u064a\u062c\ufc56\u064a\u062d\ufc57\u064a\u062e\ufc58\u064a\u0645\ufc59\u064a\u0649\ufc5a\u064a\u064a\ufc64\u064a\u0631\ufc65\u064a\u0632"⟩,
  ⟨2, "\ufc66\u064a\u0645\ufc67\u064a\u0646\ufc68\u064a\u0649\ufc69\u064a\u064a\ufc6a\u0628\u0631\ufc6b\u0628\u0632\ufc6c\u0628\u0645\ufc6d\u0628\u0646\ufc6e\u0628\u0649\ufc6f\u0628\u064a\ufc70\u062a\u0631\ufc71\u062a\u0632"⟩,
  ⟨2, "\ufc72\u062a\u0645\ufc73\u062a\u0646\ufc74\u062a\u0649\ufc75\u062a\u064a\ufc76\u062b\u0631\ufc77\u062b\u0632\ufc78\u062b\u0645\ufc79\u062b\u0646\ufc7a\u062b\u0649\ufc7b\u062b\u064a\ufc7c\u0641\u0649\ufc7d\u0641\u064a"⟩,
  ⟨2, "\ufc7e\u0642\u0649\ufc7f\u0642\u064a\ufc80\u0643\u0627\ufc81\u0643\u0644\ufc82\u0643\u0645\ufc83\u0643\u0649\ufc84\u0643\u064a\ufc85\u0644\u0645\ufc86\u0644\u0649\ufc87\u0644\u064a\ufc88\u0645\u0627\ufc89\u0645\u0645"⟩,
  ⟨2, "\ufc8a\u0646\u0631\ufc8b\u0646\u0632\ufc8c\u0646\u0645\ufc8d\u0646\u0646\ufc8e\u0646\u0649\ufc8f\u0646\u064a\ufc91\u064a\u0631\ufc92\u064a\u0632\ufc93\u064a\u0645\ufc94\u064a\u0646\ufc95\u064a\u0649\ufc96\u064a\u064a"⟩,
  ⟨2, "\ufc97\u064a\u062c\ufc98\u064a\u062d\ufc99\u064a\u062e\ufc9a\u064a\u0645\ufc9b\u064a\u0647\ufc9c\u0628\u062c\ufc9d\u0628\u062d\ufc9e\u0628\u062e\ufc9f\u0628\u0645\ufca0\u0628\u0647\ufca1\u062a\u062c\ufca2\u062a\u062d"⟩,
  ⟨2, "\ufca3\u062a\u062e\ufca4\u062a\u0645\ufca5\u062a\u0647\ufca6\u062b\u0645\ufca7\u062c\u062d\ufca8\u062c\u0645\ufca9\u062d\u062c\ufcaa\u062d\u0645\ufcab\u062e\u062c\ufcac\u062e\u0645\ufcad\u0633\u062c\ufcae\u0633\u062d"⟩,
  ⟨2, "\ufcaf\u0633\u062e\ufcb0\u0633\u0645\ufcb1\u0635\u062d\ufcb2\u0635\u062e\ufcb3\u0635\u0645\ufcb4\u0636\u062c\ufcb5\u0636\u062d\ufcb6\u0636\u062e\ufcb7\u0636\u0645\ufcb8\u0637\u062d\ufcb9\u0638\u0645\ufcba\u0639\u062c"⟩,
  ⟨2, "\ufcbb\u0639\u0645\ufcbc\u063a\u062c\ufcbd\u063a\u0645\ufcbe\u0641\u062c\ufcbf\u0641\u062d\ufcc0\u0641\u062e\ufcc1\u0641\u0645\ufcc2\u0642\u062d\ufcc3\u0642\u0645\ufcc4\u0643\u062c\ufcc5\u0643\u062d\ufcc6\u0643\u062e"⟩,
  ⟨2, "\ufcc7\u0643\u0644\ufcc8\u0643\u0645\ufcc9\u0644\u062c\ufcca\u0644\u062d\ufccb\u0644\u062e\ufccc\u0644\u0645\ufccd\u0644\u0647\ufcce\u0645\u062c\ufccf\u0645\u062d\ufcd0\u0645\u062e\ufcd1\u0645\u0645\ufcd2\u0646\u062c"⟩,
  ⟨2, "\ufcd3\u0646\u062d\ufcd4\u0646\u062e\ufcd5\u0646\u0645\ufcd6\u0646\u0647\ufcd7\u0647\u062c\ufcd8\u0647\u0645\ufcda\u064a\u062c\ufcdb\u064a\u062d\ufcdc\u064a\u062e\ufcdd\u064a\u0645\ufcde\u064a\u0647\ufcdf\u064a\u0645"⟩,
  ⟨2, "\ufce0\u064a\u0647\ufce1\u0628\u0645\ufce2\u0628\u0647\ufce3\u062a\u0645\ufce4\u062a\u0647\ufce5\u062b\u0645\ufce6\u062b\u0647\ufce7\u0633\u0645\ufce8\u0633\u0647\ufce9\u0634\u0645\ufcea\u0634\u0647\ufceb\u0643\u0644"⟩,
  ⟨2, "\ufcec\u0643\u0645\ufced\u0644\u0645\ufcee\u0646\u0645\ufcef\u0646\u0647\ufcf0\u064a\u0645\ufcf1\u064a\u0647\ufcf5\u0637\u0649\ufcf6\u0637\u064a\ufcf7\u0639\u0649\ufcf8\u0639\u064a\ufcf9\u063a\u0649\ufcfa\u063a\u064a"⟩,
  ⟨2, "\ufcfb\u0633\u0649\ufcfc\u0633\u064a\ufcfd\u0634\u0649\ufcfe\u0634\u064a\ufcff\u062d\u0649\ufd00\u062d\u064a\ufd01\u062c\u0649\ufd02\u062c\u064a\ufd03\u062e\u0649\ufd04\u062e\u064a\ufd05\u0635\u0649\ufd06\u0635\u064a"⟩,
  ⟨2, "\ufd07\u0636\u0649\ufd08\u0636\u064a\ufd09\u0634\u062c\ufd0a\u0634\u062d\ufd0b\u0634\u062e\ufd0c\u0634\u0645\ufd0d\u0634\u0631\ufd0e\u0633\u0631\ufd0f\u0635\u0631\ufd10\u0636\u0631\ufd11\u0637\u0649\ufd12\u0637\u064a"⟩,
  ⟨2, "\ufd13\u0639\u0649\ufd14\u0639\u064a\ufd15\u063a\u0649\ufd16\u063a\u064a\ufd17\u0633\u0649\ufd18\u0633\u064a\ufd19\u0634\u0649\ufd1a\u0634\u064a\ufd1b\u062d\u0649\ufd1c\u062d\u064a\ufd1d\u062c\u0649\ufd1e\u062c\u064a"⟩,
  ⟨2, "\ufd1f\u062e\u0649\ufd20\u062e\u064a\ufd21\u0635\u0649\ufd22\u0635\u064a\ufd23\u0636\u0649\ufd24\u0636\u064a\ufd25\u0634\u062c\ufd26\u0634\u062d\ufd27\u0634\u062e\ufd28\u0634\u0645\ufd29\u0634\u0631\ufd2a\u0633\u0631"⟩,
  ⟨2, "\ufd2b\u0635\u0631\ufd2c\u0636\u0631\ufd2d\u0634\u062c\ufd2e\u0634\u062d\ufd2f\u0634\u062e\ufd30\u0634\u0645\ufd31\u0633\u0647\ufd32\u0634\u0647\ufd33\u0637\u0645\ufd34\u0633\u062c\ufd35\u0633\u062d\ufd36\u0633\u062e"⟩,
  ⟨2, "\ufd37\u0634\u062c\ufd38\u0634\u062d\ufd39\u0634\u062e\ufd3a\u0637\u0645\ufd3b\u0638\u0645︰..\ufef5\u0644\u0627\ufef6\u0644\u0627\ufef7\u0644\u0627\ufef8\u0644\u0627\ufef9\u0644\u0627\ufefa\u0644\u0627"⟩,
  ⟨2, "\ufefb\u0644\u0627\ufefc\u0644\u0627𑄮𑄮𑄯𑄯𑍋𑍋𑍌𑍌𑒻𑒻𑒼𑒼𑒾𑒾𑖺𑖺𑖻𑖻𑤸𑤸"⟩,
  ⟨2, "🄀0.🄁0,🄂1,🄃2,🄄3,🄅4,🄆5,🄇6,🄈7,🄉8,🄊9,🄭CD"⟩,
  ⟨2, "🄮WZ🅊HV🅋MV🅌SD🅍SS🅏WC🅪MC🅫MD🅬MR🆐DJ🈀ほか🈁ココ"⟩,
  ⟨3, "¼1⁄4½1⁄2¾3⁄4\u0ccb\u0cc6\u0cc2\u0cd5…...‴′′′‷‵‵‵℀a/c℁a/s"⟩,
  ⟨3, "℅c/o℆c/u℡TEL℻FAX⅐1⁄7⅑1⁄9⅓1⁄3⅔2⁄3⅕1⁄5"⟩,
  ⟨3, "⅖2⁄5⅗3⁄5⅘4⁄5⅙1⁄6⅚5⁄6⅛1⁄8⅜3⁄8⅝5⁄8⅞7⁄8"⟩,
  ⟨3, "ⅢIIIⅦVIIⅫXIIⅲiiiⅶviiⅻxii↉0⁄3∭∫∫∫∰∮∮∮"⟩,
  ⟨3, "⑴(1)⑵(2)⑶(3)⑷(4)⑸(5)⑹(6)⑺(7)⑻(8)⑼(9)"⟩,
  ⟨3, "⒑10.⒒11.⒓12.⒔13.⒕14.⒖15.⒗16.⒘17.⒙18."⟩,
  ⟨3, "⒚19.⒛20.⒜(a)⒝(b)⒞(c)⒟(d)⒠(e)⒡(f)⒢(g)"⟩,
  ⟨3, "⒣(h)⒤(i)⒥(j)⒦(k)⒧(l)⒨(m)⒩(n)⒪(o)⒫(p)"⟩,
  ⟨3, "⒬(q)⒭(r)⒮(s)⒯(t)⒰(u)⒱(v)⒲(w)⒳(x)⒴(y)"⟩,
  ⟨3, "⒵(z)⩴::=⩶===㈀(ᄀ)㈁(ᄂ)㈂(ᄃ)㈃(ᄅ)㈄(ᄆ)㈅(ᄇ)"⟩,
  ⟨3, "㈆(ᄉ)㈇(ᄋ)㈈(ᄌ)㈉(ᄎ)㈊(ᄏ)㈋(ᄐ)㈌(ᄑ)㈍(ᄒ)㈠(一)"⟩,
  ⟨3, "㈡(二)㈢(三)㈣(四)㈤(五)㈥(六)㈦(七)㈧(八)㈨(九)㈩(十)"⟩,
  ⟨3, "㈪(月)㈫(火)㈬(水)㈭(木)㈮(金)㈯(土)㈰(日)㈱(株)㈲(有)"⟩,
  ⟨3, "㈳(社)㈴(名)㈵(特)㈶(財)㈷(祝)㈸(労)㈹(代)㈺(呼)㈻(学)"⟩,
  ⟨3, "㈼(監)㈽(企)㈾(資)㈿(協)㉀(祭)㉁(休)㉂(自)㉃(至)㉐PTE"⟩,
  ⟨3, "㋉10月㋊11月㋋12月㋍erg㋏LTD㌃アール㌅インチ㌆ウォン㌉オンス"⟩,
  ⟨3, "㌊オーム㌋カイリ㌎カロン㌏カンマ㌑キニー㌘クラム㌜ケース㌝コルナ㌞コーホ"⟩,
  ⟨3, "㌢センチ㌣セント㌤タース㌩ノット㌪ハイツ㌬ハーツ㌯ヒクル㌵フラン㌸ヘニヒ"⟩,
  ⟨3, "㌹ヘルツ㌺ヘンス㌻ヘーシ㌼ヘータ㌾ホルト㍀ホント㍁ホール㍂ホーン㍄マイル"⟩,
  ⟨3, "㍅マッハ㍆マルク㍎ヤート㍏ヤール㍐ユアン㍓ルヒー㍗ワット㍢10点㍣11点"⟩,
  ⟨3, "㍤12点㍥13点㍦14点㍧15点㍨16点㍩17点㍪18点㍫19点㍬20点"⟩,
  ⟨3, "㍭21点㍮22点㍯23点㍰24点㍱hPa㍴bar㍸dm2㍹dm3㎈cal"⟩,
  ⟨3, "㎑kHz㎒MHz㎓GHz㎔THz㎟mm2㎠cm2㎢km2㎣mm3㎤cm3"⟩,
  ⟨3, "㎦km3㎧m∕s㎪kPa㎫MPa㎬GPa㎭rad㏇Co.㏒log㏕mil"⟩,
  ⟨3, "㏖mol㏙PPM㏞V∕m㏟A∕m㏩10日㏪11日㏫12日㏬13日㏭14日"⟩,
  ⟨3, "㏮15日㏯16日㏰17日㏱18日㏲19日㏳20日㏴21日㏵22日㏶23日"⟩,
  ⟨3, "㏷24日㏸25日㏹26日㏺27日㏻28日㏼29日㏽30日㏾31日㏿gal"⟩,
  ⟨3, "ﬃffiﬄffl\ufd50\u062a\u062c\u0645\ufd51\u062a\u062d\u062c\ufd52\u062a\u062d\u062c\ufd53\u062a\u062d\u0645\ufd54\u062a\u062e\u0645\ufd55\u062a\u0645\u062c\ufd56\u062a\u0645\u062d"⟩,
  ⟨3, "\ufd57\u062a\u0645\u062e\ufd58\u062c\u0645\u062d\ufd59\u062c\u0645\u062d\ufd5a\u062d\u0645\u064a\ufd5b\u062d\u0645\u0649\ufd5c\u0633\u062d\u062c\ufd5d\u0633\u062c\u062d\ufd5e\u0633\u062c\u0649\ufd5f\u0633\u0645\u062d"⟩,
  ⟨3, "\ufd60\u0633\u0645\u062d\ufd61\u0633\u0645\u062c\ufd62\u0633\u0645\u0645\ufd63\u0633\u0645\u0645\ufd64\u0635\u062d\u062d\ufd65\u0635\u062d\u062d\ufd66\u0635\u0645\u0645\ufd67\u0634\u062d\u0645\ufd68\u0634\u062d\u0645"⟩,
  ⟨3, "\ufd69\u0634\u062c\u064a\ufd6a\u0634\u0645\u062e\ufd6b\u0634\u0645\u062e\ufd6c\u0634\u0645\u0645\ufd6d\u0634\u0645\u0645\ufd6e\u0636\u062d\u0649\ufd6f\u0636\u062e\u0645\ufd70\u0636\u062e\u0645\ufd71\u0637\u0645\u062d"⟩,
  ⟨3, "\ufd72\u0637\u0645\u062d\ufd73\u0637\u0645\u0645\ufd74\u0637\u0645\u064a\ufd75\u0639\u062c\u0645\ufd76\u0639\u0645\u0645\ufd77\u0639\u0645\u0645\ufd78\u0639\u0645\u0649\ufd79\u063a\u0645\u0645\ufd7a\u063a\u0645\u064a"⟩,
  ⟨3, "\ufd7b\u063a\u0645\u0649\ufd7c\u0641\u062e\u0645\ufd7d\u0641\u062e\u0645\ufd7e\u0642\u0645\u062d\ufd7f\u0642\u0645\u0645\ufd80\u0644\u062d\u0645\ufd81\u0644\u062d\u064a\ufd82\u0644\u062d\u0649\ufd83\u0644\u062c\u062c"⟩,
  ⟨3, "\ufd84\u0644\u062c\u062c\ufd85\u0644\u062e\u0645\ufd86\u0644\u062e\u0645\ufd87\u0644\u0645\u062d\ufd88\u0644\u0645\u062d\ufd89\u0645\u062d\u062c\ufd8a\u0645\u062d\u0645\ufd8b\u0645\u062d\u064a\ufd8c\u0645\u062c\u062d"⟩,
  ⟨3, "\ufd8d\u0645\u062c\u0645\ufd8e\u0645\u062e\u062c\ufd8f\u0645\u062e\u0645\ufd92\u0645\u062c\u062e\ufd93\u0647\u0645\u062c\ufd94\u0647\u0645\u0645\ufd95\u0646\u062d\u0645\ufd96\u0646\u062d\u0649\ufd97\u0646\u062c\u0645"⟩,
  ⟨3, "\ufd98\u0646\u062c\u0645\ufd99\u0646\u062c\u0649\ufd9a\u0646\u0645\u064a\ufd9b\u0646\u0645\u0649\ufd9c\u064a\u0645\u0645\ufd9d\u064a\u0645\u0645\ufd9e\u0628\u062e\u064a\ufd9f\u062a\u062c\u064a\ufda0\u062a\u062c\u0649"⟩,
  ⟨3, "\ufda1\u062a\u062e\u064a\ufda2\u062a\u062e\u0649\ufda3\u062a\u0645\u064a\ufda4\u062a\u0645\u0649\ufda5\u062c\u0645\u064a\ufda6\u062c\u062d\u0649\ufda7\u062c\u0645\u0649\ufda8\u0633\u062e\u0649\ufda9\u0635\u062d\u064a"⟩,
  ⟨3, "\ufdaa\u0634\u062d\u064a\ufdab\u0636\u062d\u064a\ufdac\u0644\u062c\u064a\ufdad\u0644\u0645\u064a\ufdae\u064a\u062d\u064a\ufdaf\u064a\u062c\u064a\ufdb0\u064a\u0645\u064a\ufdb1\u0645\u0645\u064a\ufdb2\u0642\u0645\u064a"⟩,
  ⟨3, "\ufdb3\u0646\u062d\u064a\ufdb4\u0642\u0645\u062d\ufdb5\u0644\u062d\u0645\ufdb6\u0639\u0645\u064a\ufdb7\u0643\u0645\u064a\ufdb8\u0646\u062c\u062d\ufdb9\u0645\u062e\u064a\ufdba\u0644\u062c\u0645\ufdbb\u0643\u0645\u0645"⟩,
  ⟨3, "\ufdbc\u0644\u062c\u0645\ufdbd\u0646\u062c\u062d\ufdbe\u062c\u062d\u064a\ufdbf\u062d\u062c\u064a\ufdc0\u0645\u062c\u064a\ufdc1\u0641\u0645\u064a\ufdc2\u0628\u062d\u064a\ufdc3\u0643\u0645\u0645\ufdc4\u0639\u062c\u0645"⟩,
  ⟨3, "\ufdc5\u0635\u0645\u0645\ufdc6\u0633\u062e\u064a\ufdc7\u0646\u062c\u064a\ufdf0\u0635\u0644\u06d2\ufdf1\u0642\u0644\u06d2\ufdf9\u0635\u0644\u0649︙...🄐(A)🄑(B)"⟩,
  ⟨3, "🄒(C)🄓(D)🄔(E)🄕(F)🄖(G)🄗(H)🄘(I)🄙(J)🄚(K)"⟩,
  ⟨3, "🄛(L)🄜(M)🄝(N)🄞(O)🄟(P)🄠(Q)🄡(R)🄢(S)🄣(T)"⟩,
  ⟨3, "🄤(U)🄥(V)🄦(W)🄧(X)🄨(Y)🄩(Z)🄪〔S〕🅎PPV🉀〔本〕"⟩,
  ⟨3, "🉁〔三〕🉂〔二〕🉃〔安〕🉄〔点〕🉅〔打〕🉆〔盗〕🉇〔勝〕🉈〔敗〕"⟩,
  ⟨4, "⁗′′′′⅒1⁄10ⅧVIIIⅷviii⑽(10)⑾(11)⑿(12)"⟩,
  ⟨4, "⒀(13)⒁(14)⒂(15)⒃(16)⒄(17)⒅(18)⒆(19)"⟩,
  ⟨4, "⒇(20)⨌∫∫∫∫㈎(가)㈏(나)㈐(다)㈑(라)㈒(마)"⟩,
  ⟨4, "㈓(바)㈔(사)㈕(아)㈖(자)㈗(차)㈘(카)㈙(타)"⟩,
  ⟨4, "㈚(파)㈛(하)㈜(주)㉽주의㌀アハート㌁アルファ㌂アンヘア"⟩,
  ⟨4, "㌄イニンク㌈エーカー㌌カラット㌍カロリー㌒キュリー㌓キルター㌛クローネ"⟩,
  ⟨4, "㌟サイクル㌡シリンク㌭ハーレル㌳フィート㌽ホイント㍃マイクロ㍈ミクロン"⟩,
  ⟨4, "㍌メカトン㍍メートル㍑リットル㍔ルーフル㍿株式会社㎉kcal㎨m∕s2"⟩,
  ⟨4, "㏂a.m.㏆C∕kg㏘p.m.\ufdf2\u0627\u0644\u0644\u0647\ufdf3\u0627\u0643\u0628\u0631\ufdf4\u0645\u062d\u0645\u062f\ufdf5\u0635\u0644\u0639\u0645"⟩,
  ⟨4, "\ufdf6\u0631\u0633\u0648\u0644\ufdf7\u0639\u0644\u064a\u0647\ufdf8\u0648\u0633\u0644\u0645\ufdfc\u0631\u06cc\u0627\u0644"⟩,
  ⟨5, "㉼참고㌇エスクート㌕キロクラム㌗キロワット㌙クラムトン㌚クルセイロ"⟩,
  ⟨5, "㌠サンチーム㌫ハーセント㌮ヒアストル㌲ファラット㌴フッシェル㌶ヘクタール"⟩,
  ⟨5, "㍇マンション㍊ミリハール㍖レントケン㎮rad∕s"⟩,
  ⟨6, "㈞(오후)㌖キロメートル㎯rad∕s2"⟩,
  ⟨7, "㈝(오전)"⟩,
  ⟨8, "\ufdfb\u062c\u0644 \u062c\u0644\u0627\u0644\u0647"⟩,
  ⟨18,
    "\ufdfa\u0635\u0644\u0649 \u0627\u0644\u0644\u0647 \u0639\u0644\u064a\u0647 \u0648\u0633\u0644\u0645"⟩]

end PageLayers.Text
