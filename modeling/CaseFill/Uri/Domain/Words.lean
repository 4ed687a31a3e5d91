/-! Characters that stand for several others in a domain, such as ligatures,
fractions and abbreviations in one square. A row gives a first code point, the
distance between its code points, and in order the texts that take their place. -/
namespace CaseFill.Uri.Domain

def wordRows : List (Nat × Nat × List String) := [
  (0xA8, 1, [" \u0308"]),
  (0xAF, 1, [" \u0304"]),
  (0xB4, 1, [" \u0301"]),
  (0xB8, 1, [" \u0327"]),
  (0xBC, 1, ["1⁄4", "1⁄2", "3⁄4"]),
  (0x130, 2, ["i\u0307", "ij"]),
  (0x133, 1, ["ij"]),
  (0x13F, 1, ["l·", "l·"]),
  (0x149, 1, ["ʼn"]),
  (0x1C4, 1, ["dž", "dž", "dž", "lj", "lj", "lj", "nj", "nj", "nj"]),
  (0x1F1, 1, ["dz", "dz", "dz"]),
  (0x2D8, 1, [" \u0306", " \u0307", " \u030a", " \u0328", " \u0303", " \u030b"]),
  (0x344, 1, ["\u0308\u0301"]),
  (0x37A, 1, [" ι"]),
  (0x384, 1, [" \u0301", " \u0308\u0301"]),
  (0x587, 1, ["եւ"]),
  (0x675, 1, ["\u0627\u0674", "\u0648\u0674", "\u06c7\u0674", "\u064a\u0674"]),
  (0x958, 1,
    ["क\u093c", "ख\u093c", "ग\u093c", "ज\u093c", "ड\u093c", "ढ\u093c", "फ\u093c", "य\u093c"]),
  (0x9DC, 1, ["ড\u09bc", "ঢ\u09bc"]),
  (0x9DF, 1, ["য\u09bc"]),
  (0xA33, 1, ["ਲ\u0a3c"]),
  (0xA36, 1, ["ਸ\u0a3c"]),
  (0xA59, 1, ["ਖ\u0a3c", "ਗ\u0a3c", "ਜ\u0a3c"]),
  (0xA5E, 1, ["ਫ\u0a3c"]),
  (0xB5C, 1, ["ଡ\u0b3c", "ଢ\u0b3c"]),
  (0xE33, 1, ["\u0e4dา"]),
  (0xEB3, 1, ["\u0ecdາ"]),
  (0xEDC, 1, ["ຫນ", "ຫມ"]),
  (0xF43, 1, ["ག\u0fb7"]),
  (0xF4D, 1, ["ཌ\u0fb7"]),
  (0xF52, 1, ["ད\u0fb7"]),
  (0xF57, 1, ["བ\u0fb7"]),
  (0xF5C, 1, ["ཛ\u0fb7"]),
  (0xF69, 1, ["ཀ\u0fb5"]),
  (0xF73, 2, ["\u0f71\u0f72", "\u0f71\u0f74", "\u0fb2\u0f71\u0f80", "\u0fb3\u0f71\u0f80"]),
  (0xF76, 2, ["\u0fb2\u0f80", "\u0fb3\u0f80"]),
  (0xF81, 1, ["\u0f71\u0f80"]),
  (0xF93, 1, ["\u0f92\u0fb7"]),
  (0xF9D, 1, ["\u0f9c\u0fb7"]),
  (0xFA2, 1, ["\u0fa1\u0fb7"]),
  (0xFA7, 1, ["\u0fa6\u0fb7"]),
  (0xFAC, 1, ["\u0fab\u0fb7"]),
  (0xFB9, 1, ["\u0f90\u0fb5"]),
  (0x1E9A, 1, ["aʾ"]),
  (0x1F80, 1,
    ["ἀι", "ἁι", "ἂι", "ἃι", "ἄι", "ἅι", "ἆι", "ἇι", "ἀι", "ἁι", "ἂι", "ἃι", "ἄι", "ἅι", "ἆι",
     "ἇι", "ἠι", "ἡι", "ἢι", "ἣι", "ἤι", "ἥι", "ἦι", "ἧι", "ἠι", "ἡι", "ἢι", "ἣι", "ἤι", "ἥι",
     "ἦι", "ἧι", "ὠι", "ὡι", "ὢι", "ὣι", "ὤι", "ὥι", "ὦι", "ὧι", "ὠι", "ὡι", "ὢι", "ὣι", "ὤι",
     "ὥι", "ὦι", "ὧι"]),
  (0x1FB2, 1, ["ὰι", "αι", "άι"]),
  (0x1FB7, 1, ["ᾶι"]),
  (0x1FBC, 1, ["αι", " \u0313"]),
  (0x1FBF, 1, [" \u0313", " \u0342", " \u0308\u0342", "ὴι", "ηι", "ήι"]),
  (0x1FC7, 1, ["ῆι"]),
  (0x1FCC, 1, ["ηι", " \u0313\u0300", " \u0313\u0301", " \u0313\u0342"]),
  (0x1FDD, 1, [" \u0314\u0300", " \u0314\u0301", " \u0314\u0342"]),
  (0x1FED, 1, [" \u0308\u0300", " \u0308\u0301"]),
  (0x1FF2, 1, ["ὼι", "ωι", "ώι"]),
  (0x1FF7, 1, ["ῶι"]),
  (0x1FFC, 1, ["ωι", " \u0301", " \u0314"]),
  (0x2017, 1, [" \u0333"]),
  (0x2033, 1, ["′′", "′′′"]),
  (0x2036, 1, ["‵‵", "‵‵‵"]),
  (0x203C, 2, ["!!", " \u0305"]),
  (0x2047, 1, ["??", "?!", "!?"]),
  (0x2057, 1, ["′′′′"]),
  (0x20A8, 1, ["rs"]),
  (0x2100, 1, ["a/c", "a/s"]),
  (0x2103, 2, ["°c", "c/o"]),
  (0x2106, 1, ["c/u"]),
  (0x2109, 1, ["°f"]),
  (0x2116, 1, ["no"]),
  (0x2120, 1, ["sm", "tel", "tm"]),
  (0x213B, 1, ["fax"]),
  (0x2150, 1,
    ["1⁄7", "1⁄9", "1⁄10", "1⁄3", "2⁄3", "1⁄5", "2⁄5", "3⁄5", "4⁄5", "1⁄6", "5⁄6", "1⁄8", "3⁄8",
     "5⁄8", "7⁄8", "1⁄"]),
  (0x2161, 2, ["ii", "iv", "vi", "viii"]),
  (0x2162, 1, ["iii"]),
  (0x2166, 2, ["vii", "ix", "xi"]),
  (0x216B, 1, ["xii"]),
  (0x2171, 2, ["ii", "iv", "vi", "viii"]),
  (0x2172, 1, ["iii"]),
  (0x2176, 2, ["vii", "ix", "xi"]),
  (0x217B, 1, ["xii"]),
  (0x2189, 1, ["0⁄3"]),
  (0x222C, 1, ["∫∫", "∫∫∫"]),
  (0x222F, 1, ["∮∮", "∮∮∮"]),
  (0x2469, 1,
    ["10", "11", "12", "13", "14", "15", "16", "17", "18", "19", "20", "(1)", "(2)", "(3)", "(4)",
     "(5)", "(6)", "(7)", "(8)", "(9)", "(10)", "(11)", "(12)", "(13)", "(14)", "(15)", "(16)",
     "(17)", "(18)", "(19)", "(20)"]),
  (0x249C, 1,
    ["(a)", "(b)", "(c)", "(d)", "(e)", "(f)", "(g)", "(h)", "(i)", "(j)", "(k)", "(l)", "(m)",
     "(n)", "(o)", "(p)", "(q)", "(r)", "(s)", "(t)", "(u)", "(v)", "(w)", "(x)", "(y)", "(z)"]),
  (0x2A0C, 1, ["∫∫∫∫"]),
  (0x2A74, 1, ["::=", "==", "==="]),
  (0x2ADC, 1, ["⫝\u0338"]),
  (0x309B, 1, [" \u3099", " \u309a"]),
  (0x309F, 1, ["より"]),
  (0x30FF, 1, ["コト"]),
  (0x3200, 2,
    ["(ᄀ)", "(ᄃ)", "(ᄆ)", "(ᄉ)", "(ᄌ)", "(ᄏ)", "(ᄑ)", "(가)", "(다)", "(마)", "(사)", "(자)", "(카)",
     "(파)", "(주)", "(오후)", "(一)", "(三)", "(五)", "(七)", "(九)", "(月)", "(水)", "(金)", "(日)", "(有)",
     "(名)", "(財)", "(労)", "(呼)", "(監)", "(資)", "(祭)", "(自)"]),
  (0x3201, 2,
    ["(ᄂ)", "(ᄅ)", "(ᄇ)", "(ᄋ)", "(ᄎ)", "(ᄐ)", "(ᄒ)", "(나)", "(라)", "(바)", "(아)", "(차)", "(타)",
     "(하)", "(오전)"]),
  (0x3221, 2,
    ["(二)", "(四)", "(六)", "(八)", "(十)", "(火)", "(木)", "(土)", "(株)", "(社)", "(特)", "(祝)", "(代)",
     "(学)", "(企)", "(協)", "(休)", "(至)"]),
  (0x3250, 1,
    ["pte", "21", "22", "23", "24", "25", "26", "27", "28", "29", "30", "31", "32", "33", "34",
     "35"]),
  (0x327C, 1, ["참고", "주의"]),
  (0x32B1, 1,
    ["36", "37", "38", "39", "40", "41", "42", "43", "44", "45", "46", "47", "48", "49", "50",
     "1月", "2月", "3月", "4月", "5月", "6月", "7月", "8月", "9月", "10月", "11月", "12月", "hg", "erg", "ev",
     "ltd"]),
  (0x32FF, 1,
    ["令和", "アパート", "アルファ", "アンペア", "アール", "イニング", "インチ", "ウォン", "エスクード", "エーカー", "オンス", "オーム",
     "カイリ", "カラット", "カロリー", "ガロン", "ガンマ", "ギガ", "ギニー", "キュリー", "ギルダー", "キロ", "キログラム", "キロメートル",
     "キロワット", "グラム", "グラムトン", "クルゼイロ", "クローネ", "ケース", "コルナ", "コーポ", "サイクル", "サンチーム", "シリング",
     "センチ", "セント", "ダース", "デシ", "ドル", "トン", "ナノ", "ノット", "ハイツ", "パーセント", "パーツ", "バーレル", "ピアストル",
     "ピクル", "ピコ", "ビル", "ファラッド", "フィート", "ブッシェル", "フラン", "ヘクタール", "ペソ", "ペニヒ", "ヘルツ", "ペンス",
     "ページ", "ベータ", "ポイント", "ボルト", "ホン", "ポンド", "ホール", "ホーン", "マイクロ", "マイル", "マッハ", "マルク", "マンション",
     "ミクロン", "ミリ", "ミリバール", "メガ", "メガトン", "メートル", "ヤード", "ヤール", "ユアン", "リットル", "リラ", "ルピー",
     "ルーブル", "レム", "レントゲン", "ワット", "0点", "1点", "2点", "3点", "4点", "5点", "6点", "7点", "8点", "9点",
     "10点", "11点", "12点", "13点", "14点", "15点", "16点", "17点", "18点", "19点", "20点", "21点", "22点",
     "23点", "24点", "hpa", "da", "au", "bar", "ov", "pc", "dm", "dm2", "dm3", "iu", "平成", "昭和",
     "大正", "明治", "株式会社", "pa", "na", "μa", "ma", "ka", "kb", "mb", "gb", "cal", "kcal", "pf",
     "nf", "μf", "μg", "mg", "kg", "hz", "khz", "mhz", "ghz", "thz", "μl", "ml", "dl", "kl", "fm",
     "nm", "μm", "mm", "cm", "km", "mm2", "cm2", "m2", "km2", "mm3", "cm3", "m3", "km3", "m∕s",
     "m∕s2", "pa", "kpa", "mpa", "gpa", "rad", "rad∕s", "rad∕s2", "ps", "ns", "μs", "ms", "pv",
     "nv", "μv", "mv", "kv", "mv", "pw", "nw", "μw", "mw", "kw", "mw", "kω", "mω"]),
  (0x33C3, 1, ["bq", "cc", "cd", "c∕kg"]),
  (0x33C8, 1,
    ["db", "gy", "ha", "hp", "in", "kk", "km", "kt", "lm", "ln", "log", "lx", "mb", "mil", "mol",
     "ph"]),
  (0x33D9, 1,
    ["ppm", "pr", "sr", "sv", "wb", "v∕m", "a∕m", "1日", "2日", "3日", "4日", "5日", "6日", "7日", "8日",
     "9日", "10日", "11日", "12日", "13日", "14日", "15日", "16日", "17日", "18日", "19日", "20日", "21日",
     "22日", "23日", "24日", "25日", "26日", "27日", "28日", "29日", "30日", "31日", "gal"]),
  (0xFB00, 1, ["ff", "fi", "fl", "ffi", "ffl", "st", "st"]),
  (0xFB13, 1, ["մն", "մե", "մի", "վն", "մխ"]),
  (0xFB1D, 2, ["\u05d9\u05b4", "\u05f2\u05b7"]),
  (0xFB2A, 1,
    ["\u05e9\u05c1", "\u05e9\u05c2", "\u05e9\u05bc\u05c1", "\u05e9\u05bc\u05c2", "\u05d0\u05b7",
     "\u05d0\u05b8", "\u05d0\u05bc", "\u05d1\u05bc", "\u05d2\u05bc", "\u05d3\u05bc",
     "\u05d4\u05bc", "\u05d5\u05bc", "\u05d6\u05bc"]),
  (0xFB38, 1, ["\u05d8\u05bc", "\u05d9\u05bc", "\u05da\u05bc", "\u05db\u05bc", "\u05dc\u05bc"]),
  (0xFB3E, 2, ["\u05de\u05bc", "\u05e0\u05bc"]),
  (0xFB41, 2, ["\u05e1\u05bc", "\u05e3\u05bc"]),
  (0xFB44, 2,
    ["\u05e4\u05bc", "\u05e6\u05bc", "\u05e8\u05bc", "\u05ea\u05bc", "\u05d1\u05bf",
     "\u05e4\u05bf"]),
  (0xFB47, 2, ["\u05e7\u05bc", "\u05e9\u05bc", "\u05d5\u05b9", "\u05db\u05bf", "\u05d0\u05dc"]),
  (0xFBDD, 1, ["\u06c7\u0674"]),
  (0xFBEA, 1,
    ["\u0626\u0627", "\u0626\u0627", "\u0626\u06d5", "\u0626\u06d5", "\u0626\u0648",
     "\u0626\u0648", "\u0626\u06c7", "\u0626\u06c7", "\u0626\u06c6", "\u0626\u06c6",
     "\u0626\u06c8", "\u0626\u06c8", "\u0626\u06d0", "\u0626\u06d0", "\u0626\u06d0",
     "\u0626\u0649", "\u0626\u0649", "\u0626\u0649"]),
  (0xFC00, 1,
    ["\u0626\u062c", "\u0626\u062d", "\u0626\u0645", "\u0626\u0649", "\u0626\u064a",
     "\u0628\u062c", "\u0628\u062d", "\u0628\u062e", "\u0628\u0645", "\u0628\u0649",
     "\u0628\u064a", "\u062a\u062c", "\u062a\u062d", "\u062a\u062e", "\u062a\u0645",
     "\u062a\u0649", "\u062a\u064a", "\u062b\u062c", "\u062b\u0645", "\u062b\u0649",
     "\u062b\u064a", "\u062c\u062d", "\u062c\u0645", "\u062d\u062c", "\u062d\u0645",
     "\u062e\u062c", "\u062e\u062d", "\u062e\u0645", "\u0633\u062c", "\u0633\u062d",
     "\u0633\u062e", "\u0633\u0645", "\u0635\u062d", "\u0635\u0645", "\u0636\u062c",
     "\u0636\u062d", "\u0636\u062e", "\u0636\u0645", "\u0637\u062d", "\u0637\u0645",
     "\u0638\u0645", "\u0639\u062c", "\u0639\u0645", "\u063a\u062c", "\u063a\u0645",
     "\u0641\u062c", "\u0641\u062d", "\u0641\u062e", "\u0641\u0645", "\u0641\u0649",
     "\u0641\u064a", "\u0642\u062d", "\u0642\u0645", "\u0642\u0649", "\u0642\u064a",
     "\u0643\u0627", "\u0643\u062c", "\u0643\u062d", "\u0643\u062e", "\u0643\u0644",
     "\u0643\u0645", "\u0643\u0649", "\u0643\u064a", "\u0644\u062c", "\u0644\u062d",
     "\u0644\u062e", "\u0644\u0645", "\u0644\u0649", "\u0644\u064a", "\u0645\u062c",
     "\u0645\u062d", "\u0645\u062e", "\u0645\u0645", "\u0645\u0649", "\u0645\u064a",
     "\u0646\u062c", "\u0646\u062d", "\u0646\u062e", "\u0646\u0645", "\u0646\u0649",
     "\u0646\u064a", "\u0647\u062c", "\u0647\u0645", "\u0647\u0649", "\u0647\u064a",
     "\u064a\u062c", "\u064a\u062d", "\u064a\u062e", "\u064a\u0645", "\u064a\u0649",
     "\u064a\u064a", "\u0630\u0670", "\u0631\u0670", "\u0649\u0670", " \u064c\u0651",
     " \u064d\u0651", " \u064e\u0651", " \u064f\u0651", " \u0650\u0651", " \u0651\u0670",
     "\u0626\u0631", "\u0626\u0632", "\u0626\u0645", "\u0626\u0646", "\u0626\u0649",
     "\u0626\u064a", "\u0628\u0631", "\u0628\u0632", "\u0628\u0645", "\u0628\u0646",
     "\u0628\u0649", "\u0628\u064a", "\u062a\u0631", "\u062a\u0632", "\u062a\u0645",
     "\u062a\u0646", "\u062a\u0649", "\u062a\u064a", "\u062b\u0631", "\u062b\u0632",
     "\u062b\u0645", "\u062b\u0646", "\u062b\u0649", "\u062b\u064a", "\u0641\u0649",
     "\u0641\u064a", "\u0642\u0649", "\u0642\u064a", "\u0643\u0627", "\u0643\u0644",
     "\u0643\u0645", "\u0643\u0649", "\u0643\u064a", "\u0644\u0645", "\u0644\u0649",
     "\u0644\u064a", "\u0645\u0627", "\u0645\u0645", "\u0646\u0631", "\u0646\u0632",
     "\u0646\u0645", "\u0646\u0646", "\u0646\u0649", "\u0646\u064a", "\u0649\u0670",
     "\u064a\u0631", "\u064a\u0632", "\u064a\u0645", "\u064a\u0646", "\u064a\u0649",
     "\u064a\u064a", "\u0626\u062c", "\u0626\u062d", "\u0626\u062e", "\u0626\u0645",
     "\u0626\u0647", "\u0628\u062c", "\u0628\u062d", "\u0628\u062e", "\u0628\u0645",
     "\u0628\u0647", "\u062a\u062c", "\u062a\u062d", "\u062a\u062e", "\u062a\u0645",
     "\u062a\u0647", "\u062b\u0645", "\u062c\u062d", "\u062c\u0645", "\u062d\u062c",
     "\u062d\u0645", "\u062e\u062c", "\u062e\u0645", "\u0633\u062c", "\u0633\u062d",
     "\u0633\u062e", "\u0633\u0645", "\u0635\u062d", "\u0635\u062e", "\u0635\u0645",
     "\u0636\u062c", "\u0636\u062d", "\u0636\u062e", "\u0636\u0645", "\u0637\u062d",
     "\u0638\u0645", "\u0639\u062c", "\u0639\u0645", "\u063a\u062c", "\u063a\u0645",
     "\u0641\u062c", "\u0641\u062d", "\u0641\u062e", "\u0641\u0645", "\u0642\u062d",
     "\u0642\u0645", "\u0643\u062c", "\u0643\u062d", "\u0643\u062e", "\u0643\u0644",
     "\u0643\u0645", "\u0644\u062c", "\u0644\u062d", "\u0644\u062e", "\u0644\u0645",
     "\u0644\u0647", "\u0645\u062c", "\u0645\u062d", "\u0645\u062e", "\u0645\u0645",
     "\u0646\u062c", "\u0646\u062d", "\u0646\u062e", "\u0646\u0645", "\u0646\u0647",
     "\u0647\u062c", "\u0647\u0645", "\u0647\u0670", "\u064a\u062c", "\u064a\u062d",
     "\u064a\u062e", "\u064a\u0645", "\u064a\u0647", "\u0626\u0645", "\u0626\u0647",
     "\u0628\u0645", "\u0628\u0647", "\u062a\u0645", "\u062a\u0647", "\u062b\u0645",
     "\u062b\u0647", "\u0633\u0645", "\u0633\u0647", "\u0634\u0645", "\u0634\u0647",
     "\u0643\u0644", "\u0643\u0645", "\u0644\u0645", "\u0646\u0645", "\u0646\u0647",
     "\u064a\u0645", "\u064a\u0647", "\u0640\u064e\u0651", "\u0640\u064f\u0651",
     "\u0640\u0650\u0651", "\u0637\u0649", "\u0637\u064a", "\u0639\u0649", "\u0639\u064a",
     "\u063a\u0649", "\u063a\u064a", "\u0633\u0649", "\u0633\u064a", "\u0634\u0649",
     "\u0634\u064a", "\u062d\u0649", "\u062d\u064a", "\u062c\u0649", "\u062c\u064a",
     "\u062e\u0649", "\u062e\u064a", "\u0635\u0649", "\u0635\u064a", "\u0636\u0649",
     "\u0636\u064a", "\u0634\u062c", "\u0634\u062d", "\u0634\u062e", "\u0634\u0645",
     "\u0634\u0631", "\u0633\u0631", "\u0635\u0631", "\u0636\u0631", "\u0637\u0649",
     "\u0637\u064a", "\u0639\u0649", "\u0639\u064a", "\u063a\u0649", "\u063a\u064a",
     "\u0633\u0649", "\u0633\u064a", "\u0634\u0649", "\u0634\u064a", "\u062d\u0649",
     "\u062d\u064a", "\u062c\u0649", "\u062c\u064a", "\u062e\u0649", "\u062e\u064a",
     "\u0635\u0649", "\u0635\u064a", "\u0636\u0649", "\u0636\u064a", "\u0634\u062c",
     "\u0634\u062d", "\u0634\u062e", "\u0634\u0645", "\u0634\u0631", "\u0633\u0631",
     "\u0635\u0631", "\u0636\u0631", "\u0634\u062c", "\u0634\u062d", "\u0634\u062e",
     "\u0634\u0645", "\u0633\u0647", "\u0634\u0647", "\u0637\u0645", "\u0633\u062c",
     "\u0633\u062d", "\u0633\u062e", "\u0634\u062c", "\u0634\u062d", "\u0634\u062e",
     "\u0637\u0645", "\u0638\u0645", "\u0627\u064b", "\u0627\u064b"]),
  (0xFD50, 1,
    ["\u062a\u062c\u0645", "\u062a\u062d\u062c", "\u062a\u062d\u062c", "\u062a\u062d\u0645",
     "\u062a\u062e\u0645", "\u062a\u0645\u062c", "\u062a\u0645\u062d", "\u062a\u0645\u062e",
     "\u062c\u0645\u062d", "\u062c\u0645\u062d", "\u062d\u0645\u064a", "\u062d\u0645\u0649",
     "\u0633\u062d\u062c", "\u0633\u062c\u062d", "\u0633\u062c\u0649", "\u0633\u0645\u062d",
     "\u0633\u0645\u062d", "\u0633\u0645\u062c", "\u0633\u0645\u0645", "\u0633\u0645\u0645",
     "\u0635\u062d\u062d", "\u0635\u062d\u062d", "\u0635\u0645\u0645", "\u0634\u062d\u0645",
     "\u0634\u062d\u0645", "\u0634\u062c\u064a", "\u0634\u0645\u062e", "\u0634\u0645\u062e",
     "\u0634\u0645\u0645", "\u0634\u0645\u0645", "\u0636\u062d\u0649", "\u0636\u062e\u0645",
     "\u0636\u062e\u0645", "\u0637\u0645\u062d", "\u0637\u0645\u062d", "\u0637\u0645\u0645",
     "\u0637\u0645\u064a", "\u0639\u062c\u0645", "\u0639\u0645\u0645", "\u0639\u0645\u0645",
     "\u0639\u0645\u0649", "\u063a\u0645\u0645", "\u063a\u0645\u064a", "\u063a\u0645\u0649",
     "\u0641\u062e\u0645", "\u0641\u062e\u0645", "\u0642\u0645\u062d", "\u0642\u0645\u0645",
     "\u0644\u062d\u0645", "\u0644\u062d\u064a", "\u0644\u062d\u0649", "\u0644\u062c\u062c",
     "\u0644\u062c\u062c", "\u0644\u062e\u0645", "\u0644\u062e\u0645", "\u0644\u0645\u062d",
     "\u0644\u0645\u062d", "\u0645\u062d\u062c", "\u0645\u062d\u0645", "\u0645\u062d\u064a",
     "\u0645\u062c\u062d", "\u0645\u062c\u0645", "\u0645\u062e\u062c", "\u0645\u062e\u0645"]),
  (0xFD92, 1,
    ["\u0645\u062c\u062e", "\u0647\u0645\u062c", "\u0647\u0645\u0645", "\u0646\u062d\u0645",
     "\u0646\u062d\u0649", "\u0646\u062c\u0645", "\u0646\u062c\u0645", "\u0646\u062c\u0649",
     "\u0646\u0645\u064a", "\u0646\u0645\u0649", "\u064a\u0645\u0645", "\u064a\u0645\u0645",
     "\u0628\u062e\u064a", "\u062a\u062c\u064a", "\u062a\u062c\u0649", "\u062a\u062e\u064a",
     "\u062a\u062e\u0649", "\u062a\u0645\u064a", "\u062a\u0645\u0649", "\u062c\u0645\u064a",
     "\u062c\u062d\u0649", "\u062c\u0645\u0649", "\u0633\u062e\u0649", "\u0635\u062d\u064a",
     "\u0634\u062d\u064a", "\u0636\u062d\u064a", "\u0644\u062c\u064a", "\u0644\u0645\u064a",
     "\u064a\u062d\u064a", "\u064a\u062c\u064a", "\u064a\u0645\u064a", "\u0645\u0645\u064a",
     "\u0642\u0645\u064a", "\u0646\u062d\u064a", "\u0642\u0645\u062d", "\u0644\u062d\u0645",
     "\u0639\u0645\u064a", "\u0643\u0645\u064a", "\u0646\u062c\u062d", "\u0645\u062e\u064a",
     "\u0644\u062c\u0645", "\u0643\u0645\u0645", "\u0644\u062c\u0645", "\u0646\u062c\u062d",
     "\u062c\u062d\u064a", "\u062d\u062c\u064a", "\u0645\u062c\u064a", "\u0641\u0645\u064a",
     "\u0628\u062d\u064a", "\u0643\u0645\u0645", "\u0639\u062c\u0645", "\u0635\u0645\u0645",
     "\u0633\u062e\u064a", "\u0646\u062c\u064a"]),
  (0xFDF0, 1,
    ["\u0635\u0644\u06d2", "\u0642\u0644\u06d2", "\u0627\u0644\u0644\u0647",
     "\u0627\u0643\u0628\u0631", "\u0645\u062d\u0645\u062f", "\u0635\u0644\u0639\u0645",
     "\u0631\u0633\u0648\u0644", "\u0639\u0644\u064a\u0647", "\u0648\u0633\u0644\u0645",
     "\u0635\u0644\u0649",
     "\u0635\u0644\u0649 \u0627\u0644\u0644\u0647 \u0639\u0644\u064a\u0647 \u0648\u0633\u0644\u0645",
     "\u062c\u0644 \u062c\u0644\u0627\u0644\u0647", "\u0631\u06cc\u0627\u0644"]),
  (0xFE49, 1, [" \u0305", " \u0305", " \u0305", " \u0305"]),
  (0xFE70, 2,
    [" \u064b", " \u064c", " \u064d", " \u064e", " \u064f", " \u0650", " \u0651", " \u0652"]),
  (0xFE71, 1, ["\u0640\u064b"]),
  (0xFE77, 2, ["\u0640\u064e", "\u0640\u064f", "\u0640\u0650", "\u0640\u0651", "\u0640\u0652"]),
  (0xFEF5, 1,
    ["\u0644\u0622", "\u0644\u0622", "\u0644\u0623", "\u0644\u0623", "\u0644\u0625",
     "\u0644\u0625", "\u0644\u0627", "\u0644\u0627"]),
  (0xFFE3, 1, [" \u0304"]),
  (0x1D15E, 1, ["𝅗𝅥", "𝅘𝅥", "𝅘𝅥𝅮", "𝅘𝅥𝅯", "𝅘𝅥𝅰", "𝅘𝅥𝅱", "𝅘𝅥𝅲"]),
  (0x1D1BB, 1, ["𝆹𝅥", "𝆺𝅥", "𝆹𝅥𝅮", "𝆺𝅥𝅮", "𝆹𝅥𝅯", "𝆺𝅥𝅯"]),
  (0x1F101, 1, ["0,", "1,", "2,", "3,", "4,", "5,", "6,", "7,", "8,", "9,"]),
  (0x1F110, 1,
    ["(a)", "(b)", "(c)", "(d)", "(e)", "(f)", "(g)", "(h)", "(i)", "(j)", "(k)", "(l)", "(m)",
     "(n)", "(o)", "(p)", "(q)", "(r)", "(s)", "(t)", "(u)", "(v)", "(w)", "(x)", "(y)", "(z)",
     "〔s〕"]),
  (0x1F12D, 1, ["cd", "wz"]),
  (0x1F14A, 1, ["hv", "mv", "sd", "ss", "ppv", "wc"]),
  (0x1F16A, 1, ["mc", "md", "mr"]),
  (0x1F190, 1, ["dj"]),
  (0x1F200, 1, ["ほか", "ココ"]),
  (0x1F240, 1, ["〔本〕", "〔三〕", "〔二〕", "〔安〕", "〔点〕", "〔打〕", "〔盗〕", "〔勝〕", "〔敗〕"])]

end CaseFill.Uri.Domain
