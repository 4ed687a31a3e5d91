/-! Characters that a domain does not distinguish from another single character:
capital from small letters, wide from narrow forms, variants from the usual form.
A row gives a first code point, the distance between its code points, and in
order the characters that take their place. -/
namespace CaseFill.Uri.Domain

def letterRows : List (Nat × Nat × String) := [
  (0x41, 1, "abcdefghijklmnopqrstuvwxyz"),
  (0xA0, 1, " "),
  (0xAA, 1, "a"),
  (0xB2, 1, "23"),
  (0xB5, 1, "μ"),
  (0xB9, 1, "1o"),
  (0xC0, 1, "àáâãäåæçèéêëìíîïðñòóôõö"),
  (0xD8, 1, "øùúûüýþ"),
  (0x100, 2, "āăąćĉċčďđēĕėęěĝğġģĥħĩīĭį"),
  (0x134, 2, "ĵķ"),
  (0x139, 2, "ĺļľ"),
  (0x141, 2, "łńņň"),
  (0x14A, 2, "ŋōŏőœŕŗřśŝşšţťŧũūŭůűųŵŷÿ"),
  (0x179, 2, "źżžsɓ"),
  (0x182, 2, "ƃƅɔ"),
  (0x187, 2, "ƈɖƌ"),
  (0x18A, 1, "ɗ"),
  (0x18E, 1, "ǝəɛƒ"),
  (0x193, 1, "ɠɣ"),
  (0x196, 1, "ɩɨƙ"),
  (0x19C, 1, "ɯɲ"),
  (0x19F, 1, "ɵơ"),
  (0x1A2, 2, "ƣƥʀ"),
  (0x1A7, 2, "ƨʃ"),
  (0x1AC, 2, "ƭʈ"),
  (0x1AF, 2, "ưʊƴƶʒ"),
  (0x1B2, 1, "ʋ"),
  (0x1B8, 1, "ƹ"),
  (0x1BC, 1, "ƽ"),
  (0x1CD, 2, "ǎǐǒǔǖǘǚǜ"),
  (0x1DE, 2, "ǟǡǣǥǧǩǫǭǯ"),
  (0x1F4, 2, "ǵƕǹǻǽǿȁȃȅȇȉȋȍȏȑȓȕȗșțȝȟƞȣȥȧȩȫȭȯȱȳ"),
  (0x1F7, 1, "ƿ"),
  (0x23A, 1, "ⱥȼ"),
  (0x23D, 1, "ƚⱦ"),
  (0x241, 2, "ɂƀʌ"),
  (0x244, 2, "ʉɇɉɋɍɏ"),
  (0x2B0, 1, "hɦjrɹɻʁwy"),
  (0x2E0, 1, "ɣlsxʕ"),
  (0x340, 1, "\u0300\u0301"),
  (0x343, 2, "\u0313ι"),
  (0x370, 2, "ͱͳʹͷ"),
  (0x37E, 1, ";ϳ"),
  (0x386, 1, "ά·έήί"),
  (0x38C, 2, "όύ"),
  (0x38F, 2, "ώαγεηιλνορσυχωϋ"),
  (0x392, 2, "βδζθκμξπ"),
  (0x3A4, 2, "τφψϊ"),
  (0x3CF, 1, "ϗβθυύϋφπ"),
  (0x3D8, 2, "ϙϛϝϟϡϣϥϧϩϫϭϯκσθ"),
  (0x3F1, 1, "ρ"),
  (0x3F5, 2, "εϸσ"),
  (0x3FA, 1, "ϻ"),
  (0x3FD, 1, "ͻͼͽѐёђѓєѕіїјљњћќѝўџабвгдежзийклмнопрстуф"),
  (0x425, 1, "хцчшщъыьэюя"),
  (0x460, 2, "ѡѣѥѧѩѫѭѯѱѳѵѷѹѻѽѿҁ"),
  (0x48A, 2, "ҋҍҏґғҕҗҙқҝҟҡңҥҧҩҫҭүұҳҵҷҹһҽҿӏ"),
  (0x4C1, 2, "ӂӄӆӈӊӌӎ"),
  (0x4D0, 2, "ӑӓӕӗәӛӝӟӡӣӥӧөӫӭӯӱӳӵӷӹӻӽӿԁԃԅԇԉԋԍԏԑԓԕԗԙԛԝԟ"),
  (0x520, 2, "ԡԣԥԧԩԫԭԯ"),
  (0x531, 1, "աբգդեզէըթժիլխծկհձղճմյնշոչպջռսվտրցւփքօֆ"),
  (0xF0C, 1, "་"),
  (0x10A0, 1, "ⴀⴁⴂⴃⴄⴅⴆⴇⴈⴉⴊⴋⴌⴍⴎⴏⴐⴑⴒⴓⴔⴕⴖⴗⴘⴙⴚⴛⴜⴝⴞⴟⴠⴡⴢⴣⴤⴥ"),
  (0x10C7, 1, "ⴧ"),
  (0x10CD, 1, "ⴭ"),
  (0x10FC, 1, "ნ"),
  (0x13F8, 1, "ᏰᏱᏲᏳᏴᏵ"),
  (0x1C80, 1, "вдосттъѣꙋᲊ"),
  (0x1C90, 1, "აბგდევზთიკლმნოპჟრსტუფქღყშჩცძწჭხჯჰჱჲჳჴჵჶჷ"),
  (0x1CB8, 1, "ჸჹჺ"),
  (0x1CBD, 1, "ჽჾჿ"),
  (0x1D2C, 2, "abdǝhjlnoptwɐᴂdəɜ"),
  (0x1D2D, 1, "æ"),
  (0x1D31, 2, "egikm"),
  (0x1D3D, 2, "ȣruaɑbeɛgkŋɔᴗtᴝvβδχrvγφ"),
  (0x1D50, 2, "moᴖpuɯᴥγφiuβρχ"),
  (0x1D78, 1, "н"),
  (0x1D9B, 1, "ɒcɕðɜfɟɡɥɨɩɪᵻʝɭᶅʟɱɰɲɳɴɵɸʂʃƫʉʊᴜʋʌzʐʑʒθ"),
  (0x1E00, 2, "ḁḃḅḇḉḋḍḏḑḓḕḗḙḛḝḟḡḣḥḧḩḫḭḯḱḳḵḷḹḻḽḿṁṃṅṇṉṋṍṏ"),
  (0x1E50, 2, "ṑṓṕṗṙṛṝṟṡṣṥṧṩṫṭṯṱṳṵṷṹṻṽṿẁẃẅẇẉẋẍẏẑẓẕ"),
  (0x1E9B, 1, "ṡ"),
  (0x1E9E, 2, "ßạảấầẩẫậắằẳẵặẹẻẽếềểễệỉịọỏốồổỗộớờởỡợụủứừử"),
  (0x1EEE, 2, "ữựỳỵỷỹỻỽỿ"),
  (0x1F08, 1, "ἀἁἂἃἄἅἆἇ"),
  (0x1F18, 1, "ἐἑἒἓἔἕ"),
  (0x1F28, 1, "ἠἡἢἣἤἥἦἧ"),
  (0x1F38, 1, "ἰἱἲἳἴἵἶἷ"),
  (0x1F48, 1, "ὀὁὂὃὄὅ"),
  (0x1F59, 2, "ὑὓὕὗ"),
  (0x1F68, 1, "ὠὡὢὣὤὥὦὧ"),
  (0x1F71, 2, "άέήίόύώ"),
  (0x1FB8, 1, "ᾰᾱὰά"),
  (0x1FBE, 1, "ι"),
  (0x1FC8, 1, "ὲέὴή"),
  (0x1FD3, 1, "ΐ"),
  (0x1FD8, 1, "ῐῑὶί"),
  (0x1FE3, 1, "ΰ"),
  (0x1FE8, 1, "ῠῡὺύῥ"),
  (0x1FEF, 1, "\x60"),
  (0x1FF8, 1, "ὸόὼώ"),
  (0x2000, 1, "           "),
  (0x2011, 1, "‐"),
  (0x202F, 1, " "),
  (0x205F, 1, " "),
  (0x2070, 1, "0i"),
  (0x2074, 1, "456789+−=()n0123456789+−=()"),
  (0x2090, 1, "aeoxəhklmnpst"),
  (0x2102, 1, "c"),
  (0x2107, 1, "ɛ"),
  (0x210A, 1, "ghhhhħiill"),
  (0x2115, 1, "n"),
  (0x2119, 1, "pqrrr"),
  (0x2124, 2, "zωzkb"),
  (0x212B, 2, "åcefm\u05d0\u05d2i"),
  (0x2130, 2, "eⅎo\u05d1\u05d3"),
  (0x213C, 1, "πγγπ∑"),
  (0x2145, 1, "ddeij"),
  (0x2160, 1, "i"),
  (0x2164, 1, "v"),
  (0x2169, 1, "x"),
  (0x216C, 1, "lcdmi"),
  (0x2174, 1, "v"),
  (0x2179, 1, "x"),
  (0x217C, 1, "lcdm"),
  (0x2183, 1, "ↄ"),
  (0x2329, 1, "〈〉"),
  (0x2460, 1, "123456789"),
  (0x24B6, 1, "abcdefghijklmnopqrstuvwxyzabcdefghijklmn"),
  (0x24DE, 1, "opqrstuvwxyz0"),
  (0x2C00, 1, "ⰰⰱⰲⰳⰴⰵⰶⰷⰸⰹⰺⰻⰼⰽⰾⰿⱀⱁⱂⱃⱄⱅⱆⱇⱈⱉⱊⱋⱌⱍⱎⱏⱐⱑⱒⱓⱔⱕⱖⱗ"),
  (0x2C28, 1, "ⱘⱙⱚⱛⱜⱝⱞⱟ"),
  (0x2C60, 2, "ⱡɫɽ"),
  (0x2C63, 1, "ᵽ"),
  (0x2C67, 2, "ⱨⱪⱬɑɐ"),
  (0x2C6E, 2, "ɱɒⱳ"),
  (0x2C75, 1, "ⱶ"),
  (0x2C7C, 2, "jȿⲁⲃⲅⲇⲉⲋⲍⲏⲑⲓⲕⲗⲙⲛⲝⲟⲡⲣⲥⲧⲩⲫⲭⲯⲱⲳⲵⲷⲹⲻⲽⲿⳁⳃⳅⳇⳉⳋ"),
  (0x2C7D, 2, "vɀ"),
  (0x2CCC, 2, "ⳍⳏⳑⳓⳕⳗⳙⳛⳝⳟⳡⳣ"),
  (0x2CEB, 2, "ⳬⳮ"),
  (0x2CF2, 1, "ⳳ"),
  (0x2D6F, 1, "ⵡ"),
  (0x2E9F, 1, "母"),
  (0x2EF3, 1, "龟"),
  (0x2F00, 1, "一丨丶丿乙亅二亠人儿入八冂冖冫几凵刀力勹匕匚匸十卜卩厂厶又口囗土士夂夊夕大女子宀"),
  (0x2F28, 1, "寸小尢尸屮山巛工己巾干幺广廴廾弋弓彐彡彳心戈戶手支攴文斗斤方无日曰月木欠止歹殳毋"),
  (0x2F50, 1, "比毛氏气水火爪父爻爿片牙牛犬玄玉瓜瓦甘生用田疋疒癶白皮皿目矛矢石示禸禾穴立竹米糸"),
  (0x2F78, 1, "缶网羊羽老而耒耳聿肉臣自至臼舌舛舟艮色艸虍虫血行衣襾見角言谷豆豕豸貝赤走足身車辛"),
  (0x2FA0, 1, "辰辵邑酉釆里金長門阜隶隹雨靑非面革韋韭音頁風飛食首香馬骨高髟鬥鬯鬲鬼魚鳥鹵鹿麥麻"),
  (0x2FC8, 1, "黃黍黑黹黽鼎鼓鼠鼻齊齒龍龜龠"),
  (0x3000, 2, " ."),
  (0x3036, 2, "〒十卅"),
  (0x3039, 1, "卄"),
  (0x3131, 1, "ᄀᄁᆪᄂᆬᆭᄃᄄᄅᆰᆱᆲᆳᆴᆵᄚᄆᄇᄈᄡᄉᄊᄋᄌᄍᄎᄏᄐᄑ하ᅢᅣᅤᅥᅦᅧᅨᅩᅪ"),
  (0x3159, 2, "ᅫᅭᅯᅱᅳᅵᄔᇇᇌᇓᇙᇝᄝᄠᄣᄩᄬᄮᄲᅀᅌᇲᅘᆄᆈᆒᆞ"),
  (0x315A, 2, "ᅬᅮᅰᅲᅴ"),
  (0x3166, 2, "ᄕᇈᇎᇗᄜᇟᄞᄢᄧᄫᄭᄯᄶᅇᇱᅗᅙᆅᆑᆔᆡ"),
  (0x3192, 1, "一二三四上中下甲乙丙丁天地人"),
  (0x3244, 1, "問幼文箏"),
  (0x3260, 1, "ᄀᄂᄃᄅᄆᄇᄉᄋᄌᄎᄏᄐᄑᄒ가나다라마바사아자차카타파하"),
  (0x327E, 2, "우一三五七九月水金日有名財労男適印項写上下右宗監資夜"),
  (0x3281, 2, "二四六八十火木土株社特祝秘女優注休正中左医学企協"),
  (0x32D0, 1, "アイウエオカキクケコサシスセソタチツテトナニヌネノハヒフヘホマミムメモヤユヨラリ"),
  (0x32F8, 1, "ルレロワヰヱヲ"),
  (0xA640, 2, "ꙁꙃꙅꙇꙉꙋꙍꙏꙑꙓꙕꙗꙙꙛꙝꙟꙡꙣꙥꙧꙩꙫꙭ"),
  (0xA680, 2, "ꚁꚃꚅꚇꚉꚋꚍꚏꚑꚓꚕꚗꚙꚛъ"),
  (0xA69D, 1, "ь"),
  (0xA722, 2, "ꜣꜥꜧꜩꜫꜭꜯ"),
  (0xA732, 2, "ꜳꜵꜷꜹꜻꜽꜿꝁꝃꝅꝇꝉꝋꝍꝏꝑꝓꝕꝗꝙꝛꝝꝟꝡꝣꝥꝧꝩꝫꝭꝯꝯ"),
  (0xA779, 2, "ꝺꝼᵹ"),
  (0xA77E, 2, "ꝿꞁꞃꞅꞇ"),
  (0xA78B, 2, "ꞌɥ"),
  (0xA790, 2, "ꞑꞓ"),
  (0xA796, 2, "ꞗꞙꞛꞝꞟꞡꞣꞥꞧꞩɦɡɪʞʝꞵꞷꞹꞻꞽꞿꟁꟃꞔᶎ"),
  (0xA7AB, 2, "ɜɬ"),
  (0xA7B1, 2, "ʇꭓ"),
  (0xA7C5, 2, "ʂꟈꟊɤ"),
  (0xA7CC, 2, "ꟍ꟏ꟑꟓꟕꟗꟙꟛƛ"),
  (0xA7F1, 1, "scfqꟶ"),
  (0xA7F8, 1, "ħœ"),
  (0xAB5C, 1, "ꜧꬷɫꭒ"),
  (0xAB69, 1, "ʍ"),
  (0xAB70, 1, "ᎠᎡᎢᎣᎤᎥᎦᎧᎨᎩᎪᎫᎬᎭᎮᎯᎰᎱᎲᎳᎴᎵᎶᎷᎸᎹᎺᎻᎼᎽᎾᎿᏀᏁᏂᏃᏄᏅᏆᏇ"),
  (0xAB98, 1, "ᏈᏉᏊᏋᏌᏍᏎᏏᏐᏑᏒᏓᏔᏕᏖᏗᏘᏙᏚᏛᏜᏝᏞᏟᏠᏡᏢᏣᏤᏥᏦᏧᏨᏩᏪᏫᏬᏭᏮᏯ"),
  (0xF900, 1, "豈更車賈滑串句龜龜契金喇奈懶癩羅蘿螺裸邏樂洛烙珞落酪駱亂卵欄爛蘭鸞嵐濫藍襤拉臘蠟"),
  (0xF928, 1, "廊朗浪狼郎來冷勞擄櫓爐盧老蘆虜路露魯鷺碌祿綠菉錄鹿論壟弄籠聾牢磊賂雷壘屢樓淚漏累"),
  (0xF950, 1, "縷陋勒肋凜凌稜綾菱陵讀拏樂諾丹寧怒率異北磻便復不泌數索參塞省葉說殺辰沈拾若掠略亮"),
  (0xF978, 1, "兩凉梁糧良諒量勵呂女廬旅濾礪閭驪麗黎力曆歷轢年憐戀撚漣煉璉秊練聯輦蓮連鍊列劣咽烈"),
  (0xF9A0, 1, "裂說廉念捻殮簾獵令囹寧嶺怜玲瑩羚聆鈴零靈領例禮醴隸惡了僚寮尿料樂燎療蓼遼龍暈阮劉"),
  (0xF9C8, 1, "杻柳流溜琉留硫紐類六戮陸倫崙淪輪律慄栗率隆利吏履易李梨泥理痢罹裏裡里離匿溺吝燐璘"),
  (0xF9F0, 1, "藺隣鱗麟林淋臨立笠粒狀炙識什茶刺切度拓糖宅洞暴輻行降見廓兀嗀"),
  (0xFA10, 2, "塚晴"),
  (0xFA15, 1, "凞猪益礼神祥福靖精羽"),
  (0xFA20, 2, "蘒諸"),
  (0xFA25, 1, "逸都"),
  (0xFA2A, 1, "飯飼館鶴郞隷侮僧免勉勤卑喝嘆器塀墨層屮悔慨憎懲敏既暑梅海渚漢煮爫琢碑社祉祈祐祖祝"),
  (0xFA52, 1, "禍禎穀突節練縉繁署者臭艹艹著褐視謁謹賓贈辶逸難響頻恵𤋮舘"),
  (0xFA70, 1, "並况全侀充冀勇勺喝啕喙嗢塚墳奄奔婢嬨廒廙彩徭惘慎愈憎慠懲戴揄搜摒敖晴朗望杖歹殺流"),
  (0xFA98, 1, "滛滋漢瀞煮瞧爵犯猪瑱甆画瘝瘟益盛直睊着磌窱節类絛練缾者荒華蝹襁覆視調諸請謁諾諭謹"),
  (0xFAC0, 1, "變贈輸遲醙鉶陼難靖韛響頋頻鬒龜𢡊𢡄𣏕㮝䀘䀹𥉉𥳐𧻓齃龎"),
  (0xFB20, 1, "\u05e2\u05d0\u05d3\u05d4\u05db\u05dc\u05dd\u05e8\u05ea+"),
  (0xFB50, 1, "\u0671\u0671\u067b\u067b\u067b\u067b\u067e\u067e\u067e\u067e\u0680\u0680\u0680\u0680\u067a\u067a\u067a\u067a\u067f\u067f\u067f\u067f\u0679\u0679\u0679\u0679\u06a4\u06a4\u06a4\u06a4\u06a6\u06a6\u06a6\u06a6\u0684\u0684\u0684\u0684\u0683\u0683"),
  (0xFB78, 1, "\u0683\u0683\u0686\u0686\u0686\u0686\u0687\u0687\u0687\u0687\u068d\u068d\u068c\u068c\u068e\u068e\u0688\u0688\u0698\u0698\u0691\u0691\u06a9\u06a9\u06a9\u06a9\u06af\u06af\u06af\u06af\u06b3\u06b3\u06b3\u06b3\u06b1\u06b1\u06b1\u06b1\u06ba\u06ba"),
  (0xFBA0, 1, "\u06bb\u06bb\u06bb\u06bb\u06c0\u06c0\u06c1\u06c1\u06c1\u06c1\u06be\u06be\u06be\u06be\u06d2\u06d2\u06d3\u06d3"),
  (0xFBD3, 1, "\u06ad\u06ad\u06ad\u06ad\u06c7\u06c7\u06c6\u06c6\u06c8\u06c8"),
  (0xFBDE, 1, "\u06cb\u06cb\u06c5\u06c5\u06c9\u06c9\u06d0\u06d0\u06d0\u06d0\u0649\u0649"),
  (0xFBFC, 1, "\u06cc\u06cc\u06cc\u06cc"),
  (0xFE10, 1, ",、"),
  (0xFE13, 1, ":;!?〖〗"),
  (0xFE31, 1, "—–__()\x7b\x7d〔〕【】《》〈〉「」『』"),
  (0xFE47, 1, "[]"),
  (0xFE4D, 1, "___,、"),
  (0xFE54, 1, ";:?!—()\x7b\x7d〔〕#&*+-<>="),
  (0xFE68, 1, "\\$%@"),
  (0xFE80, 1, "\u0621\u0622\u0622\u0623\u0623\u0624\u0624\u0625\u0625\u0626\u0626\u0626\u0626\u0627\u0627\u0628\u0628\u0628\u0628\u0629\u0629\u062a\u062a\u062a\u062a\u062b\u062b\u062b\u062b\u062c\u062c\u062c\u062c\u062d\u062d\u062d\u062d\u062e\u062e\u062e"),
  (0xFEA8, 1, "\u062e\u062f\u062f\u0630\u0630\u0631\u0631\u0632\u0632\u0633\u0633\u0633\u0633\u0634\u0634\u0634\u0634\u0635\u0635\u0635\u0635\u0636\u0636\u0636\u0636\u0637\u0637\u0637\u0637\u0638\u0638\u0638\u0638\u0639\u0639\u0639\u0639\u063a\u063a\u063a"),
  (0xFED0, 1, "\u063a\u0641\u0641\u0641\u0641\u0642\u0642\u0642\u0642\u0643\u0643\u0643\u0643\u0644\u0644\u0644\u0644\u0645\u0645\u0645\u0645\u0646\u0646\u0646\u0646\u0647\u0647\u0647\u0647\u0648\u0648\u0649\u0649\u064a\u064a\u064a\u064a"),
  (0xFF01, 1, "!\"#$%&'()*+,-./0123456789:;<=>?@abcdefgh"),
  (0xFF29, 1, "ijklmnopqrstuvwxyz[\\]^_\x60abcdefghijklmnop"),
  (0xFF51, 1, "qrstuvwxyz\x7b|\x7d~⦅⦆.「」、・ヲァィゥェォャュョッーアイウエオカキク"),
  (0xFF79, 1, "ケコサシスセソタチツテトナニヌネノハヒフヘホマミムメモヤユヨラリルレロワン\u3099\u309a"),
  (0xFFA1, 1, "ᄀᄁᆪᄂᆬᆭᄃᄄᄅᆰᆱᆲᆳᆴᆵᄚᄆᄇᄈᄡᄉᄊᄋᄌᄍᄎᄏᄐᄑᄒ"),
  (0xFFC2, 1, "ᅡᅢᅣᅤᅥᅦ"),
  (0xFFCA, 1, "ᅧᅨᅩᅪᅫᅬ"),
  (0xFFD2, 1, "ᅭᅮᅯᅰᅱᅲ"),
  (0xFFDA, 1, "ᅳᅴᅵ"),
  (0xFFE0, 2, "¢¬¦₩│↑↓○"),
  (0xFFE1, 1, "£"),
  (0xFFE5, 1, "¥"),
  (0xFFE9, 2, "←→■"),
  (0x10400, 1, "𐐨𐐩𐐪𐐫𐐬𐐭𐐮𐐯𐐰𐐱𐐲𐐳𐐴𐐵𐐶𐐷𐐸𐐹𐐺𐐻𐐼𐐽𐐾𐐿𐑀𐑁𐑂𐑃𐑄𐑅𐑆𐑇𐑈𐑉𐑊𐑋𐑌𐑍𐑎𐑏"),
  (0x104B0, 1, "𐓘𐓙𐓚𐓛𐓜𐓝𐓞𐓟𐓠𐓡𐓢𐓣𐓤𐓥𐓦𐓧𐓨𐓩𐓪𐓫𐓬𐓭𐓮𐓯𐓰𐓱𐓲𐓳𐓴𐓵𐓶𐓷𐓸𐓹𐓺𐓻"),
  (0x10570, 2, "𐖗𐖙𐖛𐖝𐖟𐖡𐖣𐖥𐖧𐖩𐖫𐖭𐖯𐖱𐖳𐖵𐖷𐖹𐖻"),
  (0x10571, 2, "𐖘𐖚𐖜𐖞𐖠"),
  (0x1057D, 2, "𐖤𐖦𐖨𐖪𐖬𐖮𐖰"),
  (0x1058D, 2, "𐖴𐖶𐖸"),
  (0x10595, 1, "𐖼"),
  (0x10781, 2, "ːæɓʣʥɖᶑɞɤɠħɧʪɬꞎ𝼅𝼆ɶq𝼈ɾʨꭧʈ"),
  (0x10782, 2, "ˑʙ"),
  (0x10788, 2, "ꭦʤɗɘʩɢʛʜʄʫ𝼄ɮʎøɷɺɽʀʦʧⱱʏʢǀǂ𝼞"),
  (0x107B3, 2, "ʡʘǁ𝼊"),
  (0x10C80, 1, "𐳀𐳁𐳂𐳃𐳄𐳅𐳆𐳇𐳈𐳉𐳊𐳋𐳌𐳍𐳎𐳏𐳐𐳑𐳒𐳓𐳔𐳕𐳖𐳗𐳘𐳙𐳚𐳛𐳜𐳝𐳞𐳟𐳠𐳡𐳢𐳣𐳤𐳥𐳦𐳧"),
  (0x10CA8, 1, "𐳨𐳩𐳪𐳫𐳬𐳭𐳮𐳯𐳰𐳱𐳲"),
  (0x10D50, 1, "𐵰𐵱𐵲𐵳𐵴𐵵𐵶𐵷𐵸𐵹𐵺𐵻𐵼𐵽𐵾𐵿𐶀𐶁𐶂𐶃𐶄𐶅"),
  (0x118A0, 1, "𑣀𑣁𑣂𑣃𑣄𑣅𑣆𑣇𑣈𑣉𑣊𑣋𑣌𑣍𑣎𑣏𑣐𑣑𑣒𑣓𑣔𑣕𑣖𑣗𑣘𑣙𑣚𑣛𑣜𑣝𑣞𑣟"),
  (0x16E40, 1, "𖹠𖹡𖹢𖹣𖹤𖹥𖹦𖹧𖹨𖹩𖹪𖹫𖹬𖹭𖹮𖹯𖹰𖹱𖹲𖹳𖹴𖹵𖹶𖹷𖹸𖹹𖹺𖹻𖹼𖹽𖹾𖹿"),
  (0x16EA0, 1, "𖺻𖺼𖺽𖺾𖺿𖻀𖻁𖻂𖻃𖻄𖻅𖻆𖻇𖻈𖻉𖻊𖻋𖻌𖻍𖻎𖻏𖻐𖻑𖻒𖻓"),
  (0x1CCD6, 1, "abcdefghijklmnopqrstuvwxyz0123456789"),
  (0x1D400, 1, "abcdefghijklmnopqrstuvwxyzabcdefghijklmn"),
  (0x1D428, 1, "opqrstuvwxyzabcdefghijklmnopqrstuvwxyzab"),
  (0x1D450, 2, "cegikmoqsuwyacegikmoqsuwyacegikmoqsuwyac"),
  (0x1D451, 2, "df"),
  (0x1D457, 2, "jlnprtvxzbdfhjlnprtvxzbdfhjlnprtvxz"),
  (0x1D49F, 1, "d"),
  (0x1D4A2, 1, "g"),
  (0x1D4A5, 1, "jk"),
  (0x1D4A9, 1, "nopq"),
  (0x1D4AE, 1, "stuvwxyzabcd"),
  (0x1D4BB, 2, "fhjlnprtvxzbdfhjlnprtvxzbdfhjlnprtvxzbdf"),
  (0x1D4BE, 2, "ikm"),
  (0x1D4C6, 2, "qsuwyacegikmoqsuwyacegikmoqsuwya"),
  (0x1D508, 2, "eg"),
  (0x1D50D, 1, "jklmnopq"),
  (0x1D516, 2, "suwyacegikmoqsuwya"),
  (0x1D517, 2, "tvx"),
  (0x1D51F, 2, "bdfhjlnprtvxzbdf"),
  (0x1D53C, 2, "egikmo"),
  (0x1D541, 2, "jl"),
  (0x1D54A, 2, "suwyacegikmoqsuwyacegikmoqsuwyacegikmoqs"),
  (0x1D54B, 2, "tvx"),
  (0x1D553, 2, "bdfhjlnprtvxzbdfhjlnprtvxzbdfhjlnprtvxzb"),
  (0x1D59A, 2, "uwyacegikmoqsuwyacegikmoqsuwyacegikmoqsu"),
  (0x1D5A3, 2, "dfhjlnprtvxzbdfhjlnprtvxzbdfhjlnprtvxzbd"),
  (0x1D5EA, 2, "wyacegikmoqsuwyacegikmoqsuwyacegikmoqsuw"),
  (0x1D5F3, 2, "fhjlnprtvxzbdfhjlnprtvxzbdfhjlnprtvxzbdf"),
  (0x1D63A, 2, "yacegikmoqsuwyacegikmoqsuwyacegikmoqsuwy"),
  (0x1D643, 2, "hjlnprtvxzbdfhjlnprtvxzbdfhjlnprtvxzbdfh"),
  (0x1D68A, 2, "acegikmoqsuwyı"),
  (0x1D693, 2, "jlnprtvxzȷ"),
  (0x1D6A8, 1, "αβγδεζηθικλμνξοπρθστυφχψω∇αβγδεζηθικλμνξ"),
  (0x1D6D0, 1, "οπρσστυφχψω∂εθκφρπαβγδεζηθικλμνξοπρθστυφ"),
  (0x1D6F8, 1, "χψω∇αβγδεζηθικλμνξοπρσστυφχψω∂εθκφρπαβγδ"),
  (0x1D720, 1, "εζηθικλμνξοπρθστυφχψω∇αβγδεζηθικλμνξοπρσ"),
  (0x1D748, 1, "στυφχψω∂εθκφρπαβγδεζηθικλμνξοπρθστυφχψω∇"),
  (0x1D770, 1, "αβγδεζηθικλμνξοπρσστυφχψω∂εθκφρπαβγδεζηθ"),
  (0x1D798, 1, "ικλμνξοπρθστυφχψω∇αβγδεζηθικλμνξοπρσστυφ"),
  (0x1D7C0, 1, "χψω∂εθκφρπϝϝ"),
  (0x1D7CE, 1, "0123456789012345678901234567890123456789"),
  (0x1D7F6, 1, "0123456789"),
  (0x1E030, 1, "абвгдежзиклмопрстуфхцчшыэюꚉәіјөүӏабвгдеж"),
  (0x1E058, 1, "зиклопсуфхцчшъыґіѕџҫꙑұ"),
  (0x1E900, 1, "𞤢𞤣𞤤𞤥𞤦𞤧𞤨𞤩𞤪𞤫𞤬𞤭𞤮𞤯𞤰𞤱𞤲𞤳𞤴𞤵𞤶𞤷𞤸𞤹𞤺𞤻𞤼𞤽𞤾𞤿𞥀𞥁𞥂𞥃"),
  (0x1EE00, 1, "\u0627\u0628\u062c\u062f"),
  (0x1EE05, 1, "\u0648\u0632\u062d\u0637\u064a\u0643\u0644\u0645\u0646\u0633\u0639\u0641\u0635\u0642\u0631\u0634\u062a\u062b\u062e\u0630\u0636\u0638\u063a\u066e\u06ba\u06a1\u066f"),
  (0x1EE21, 1, "\u0628\u062c"),
  (0x1EE24, 1, "\u0647"),
  (0x1EE27, 2, "\u062d\u064a\u0644\u0646\u0639\u0635"),
  (0x1EE2A, 2, "\u0643\u0645\u0633\u0641\u0642\u0634\u062b"),
  (0x1EE35, 2, "\u062a\u062e\u0636\u063a"),
  (0x1EE42, 1, "\u062c"),
  (0x1EE47, 2, "\u062d\u064a\u0644\u0646\u0639\u0635"),
  (0x1EE4E, 1, "\u0633"),
  (0x1EE52, 2, "\u0642\u0634"),
  (0x1EE57, 2, "\u062e\u0636\u063a\u06ba\u066f\u0628"),
  (0x1EE62, 2, "\u062c\u0647"),
  (0x1EE67, 1, "\u062d\u0637\u064a\u0643"),
  (0x1EE6C, 1, "\u0645\u0646\u0633\u0639\u0641\u0635\u0642"),
  (0x1EE74, 1, "\u0634\u062a\u062b\u062e"),
  (0x1EE79, 1, "\u0636\u0638\u063a\u066e"),
  (0x1EE7E, 2, "\u06a1\u0627\u062c\u0647\u0632\u0637"),
  (0x1EE81, 2, "\u0628\u062f\u0648\u062d\u064a\u0644\u0646\u0639\u0635\u0631\u062a\u062e\u0636\u063a"),
  (0x1EE8C, 2, "\u0645\u0633\u0641\u0642\u0634\u062b\u0630\u0638"),
  (0x1EEA1, 2, "\u0628\u062f\u0648\u062d\u064a\u0644\u0646\u0639\u0635\u0631\u062a\u062e\u0636\u063a"),
  (0x1EEA2, 1, "\u062c"),
  (0x1EEA6, 2, "\u0632\u0637"),
  (0x1EEAC, 2, "\u0645\u0633\u0641\u0642\u0634\u062b\u0630\u0638"),
  (0x1F12B, 1, "cr"),
  (0x1F130, 1, "abcdefghijklmnopqrstuvwxyz"),
  (0x1F202, 1, "サ"),
  (0x1F210, 1, "手字双デ二多解天交映無料前後再新初終生販声吹演投捕一三遊左中右指走打禁空合満有月"),
  (0x1F238, 1, "申割営配"),
  (0x1F250, 1, "得可"),
  (0x1FBF0, 1, "0123456789"),
  (0x2F800, 1, "丽丸乁𠄢你侮侻倂偺備僧像㒞𠘺免兔兤具𠔜㒹內再𠕋冗冤仌冬况𩇟凵刃㓟刻剆割剷㔕勇勉勤"),
  (0x2F828, 1, "勺包匆北卉卑博即卽卿卿卿𠨬灰及叟𠭣叫叱吆咞吸呈周咢哶唐啓啣善善喙喫喳嗂圖嘆圗噑噴"),
  (0x2F850, 1, "切壮城埴堍型堲報墬𡓤売壷夆多夢奢𡚨𡛪姬娛娧姘婦㛮㛼嬈嬾嬾𡧈寃寘寧寳𡬘寿将当尢㞁屠"),
  (0x2F878, 1, "屮峀岍𡷤嵃𡷦嵮嵫嵼巡巢㠯巽帨帽幩㡢𢆃㡼庰庳庶廊𪎒廾𢌱𢌱舁弢弢㣇𣊸𦇚形彫㣣徚忍志忹"),
  (0x2F8A0, 1, "悁㤺㤜悔𢛔惇慈慌慎慌慺憎憲憤憯懞懲懶成戛扝抱拔捐𢬌挽拼捨掃揤𢯱搢揅掩㨮摩摾撝摷㩬"),
  (0x2F8C8, 1, "敏敬𣀊旣書晉㬙暑㬈㫤冒冕最暜肭䏙朗望朡杞杓𣏃㭉柺枅桒梅𣑭梎栟椔㮝楂榣槪檨𣚣櫛㰘次"),
  (0x2F8F0, 1, "𣢧歔㱎歲殟殺殻𣪍𡴋𣫺汎𣲼沿泍汧洖派海流浩浸涅𣴞洴港湮㴳滋滇𣻑淹潮𣽞𣾎濆瀹瀞瀛㶖灊"),
  (0x2F918, 1, "災灷炭𠔥煅𤉣熜𤎫爨爵牐𤘈犀犕𤜵𤠔獺王㺬玥㺸㺸瑇瑜瑱璅瓊㼛甤𤰶甾𤲒異𢆟瘐𤾡𤾸𥁄㿼䀈"),
  (0x2F940, 1, "直𥃳𥃲𥄙𥄳眞真真睊䀹瞋䁆䂖𥐝硎碌磌䃣𥘦祖𥚚𥛅福秫䄯穀穊穏𥥼𥪧𥪧竮䈂𥮫篆築䈧𥲀糒䊠"),
  (0x2F968, 1, "糨糣紀𥾆絣䌁緇縂繅䌴𦈨𦉇䍙𦋙罺𦌾羕翺者𦓚𦔣聠𦖨聰𣍟䏕育脃䐋脾媵𦞧𦞵𣎓𣎜舁舄辞䑫芑"),
  (0x2F990, 1, "芋芝劳花芳芽苦𦬼若茝荣莭茣莽菧著荓菊菌菜𦰶𦵫𦳕䔫蓱蓳蔖𧏊蕤𦼬䕝䕡𦾱𧃒䕫虐虜虧虩蚩"),
  (0x2F9B8, 1, "蚈蜎蛢蝹蜨蝫螆䗗蟡蠁䗹衠衣𧙧裗裞䘵裺㒻𧢮𧥦䚾䛇誠諭變豕𧲨貫賁贛起𧼯𠠄跋趼跰𠣞軔輸"),
  (0x2F9E0, 1, "𨗒𨗭邔郱鄑𨜮鄛鈸鋗鋘鉼鏹鐕𨯺開䦕閷𨵷䧦雃嶲霣𩅅𩈚䩮䩶韠𩐊䪲𩒖頋頋頩𩖶飢䬳餩馧駂駾"),
  (0x2FA08, 1, "䯎𩬰鬒鱀鳽䳎䳭鵧𪃎䳸𪄅𪈎𪊑麻䵖黹黾鼅鼏鼖鼻𪘀")]

end CaseFill.Uri.Domain
