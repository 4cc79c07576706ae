/-!
The names of Unicode properties and of their values.  A row lists the names of one property or of
one value; the first name of a row is the one that the other tables use.
-/

namespace ProtoSchema.Unicode.Table

/-- The properties of the character database. -/
def propertyNames : List (List String) :=
  [ ["Age", "age"], ["Alphabetic", "Alpha"], ["ASCII_Hex_Digit", "AHex"], ["Bidi_Class", "bc"],
    ["Bidi_Control", "Bidi_C"], ["Bidi_Mirrored", "Bidi_M"], ["Bidi_Mirroring_Glyph", "bmg"],
    ["Bidi_Paired_Bracket", "bpb"], ["Bidi_Paired_Bracket_Type", "bpt"], ["Block", "blk"],
    ["Canonical_Combining_Class", "ccc"], ["Case_Folding", "cf"], ["Case_Ignorable", "CI"],
    ["Cased"], ["Changes_When_Casefolded", "CWCF"], ["Changes_When_Casemapped", "CWCM"],
    ["Changes_When_Lowercased", "CWL"], ["Changes_When_NFKC_Casefolded", "CWKCF"],
    ["Changes_When_Titlecased", "CWT"], ["Changes_When_Uppercased", "CWU"],
    ["Composition_Exclusion", "CE"], ["Dash"], ["Decomposition_Mapping", "dm"],
    ["Decomposition_Type", "dt"], ["Default_Ignorable_Code_Point", "DI"], ["Deprecated", "Dep"],
    ["Diacritic", "Dia"], ["East_Asian_Width", "ea"], ["Emoji"], ["Emoji_Component", "EComp"],
    ["Emoji_Modifier", "EMod"], ["Emoji_Modifier_Base", "EBase"],
    ["Emoji_Presentation", "EPres"], ["Equivalent_Unified_Ideograph", "EqUIdeo"],
    ["Expands_On_NFC", "XO_NFC"], ["Expands_On_NFD", "XO_NFD"], ["Expands_On_NFKC", "XO_NFKC"],
    ["Expands_On_NFKD", "XO_NFKD"], ["Extended_Pictographic", "ExtPict"], ["Extender", "Ext"],
    ["FC_NFKC_Closure", "FC_NFKC"], ["Full_Composition_Exclusion", "Comp_Ex"],
    ["General_Category", "gc"], ["Grapheme_Base", "Gr_Base"], ["Grapheme_Cluster_Break", "GCB"],
    ["Grapheme_Extend", "Gr_Ext"], ["Grapheme_Link", "Gr_Link"],
    ["Hangul_Syllable_Type", "hst"], ["Hex_Digit", "Hex"], ["Hyphen"],
    ["ID_Compat_Math_Continue"], ["ID_Compat_Math_Start"], ["ID_Continue", "IDC"],
    ["ID_Start", "IDS"], ["Ideographic", "Ideo"], ["IDS_Binary_Operator", "IDSB"],
    ["IDS_Trinary_Operator", "IDST"], ["IDS_Unary_Operator", "IDSU"],
    ["Indic_Conjunct_Break", "InCB"], ["Indic_Positional_Category", "InPC"],
    ["Indic_Syllabic_Category", "InSC"], ["ISO_Comment", "isc"], ["Jamo_Short_Name", "JSN"],
    ["Join_Control", "Join_C"], ["Joining_Group", "jg"], ["Joining_Type", "jt"],
    ["kAccountingNumeric", "cjkAccountingNumeric"],
    ["kCompatibilityVariant", "cjkCompatibilityVariant"], ["kEH_Cat"], ["kEH_Desc"], ["kEH_HG"],
    ["kEH_IFAO"], ["kEH_JSesh"], ["kEH_NoMirror"], ["kEH_NoRotate"], ["kIICore", "cjkIICore"],
    ["kIRG_GSource", "cjkIRG_GSource"], ["kIRG_HSource", "cjkIRG_HSource"],
    ["kIRG_JSource", "cjkIRG_JSource"], ["kIRG_KPSource", "cjkIRG_KPSource"],
    ["kIRG_KSource", "cjkIRG_KSource"], ["kIRG_MSource", "cjkIRG_MSource"],
    ["kIRG_SSource", "cjkIRG_SSource"], ["kIRG_TSource", "cjkIRG_TSource"],
    ["kIRG_UKSource", "cjkIRG_UKSource"], ["kIRG_USource", "cjkIRG_USource"],
    ["kIRG_VSource", "cjkIRG_VSource"], ["kOtherNumeric", "cjkOtherNumeric"],
    ["kPrimaryNumeric", "cjkPrimaryNumeric"],
    ["kRSUnicode", "cjkRSUnicode", "Unicode_Radical_Stroke", "URS"], ["Line_Break", "lb"],
    ["Logical_Order_Exception", "LOE"], ["Lowercase", "Lower"], ["Lowercase_Mapping", "lc"],
    ["Math"], ["Modifier_Combining_Mark", "MCM"], ["Name", "na"], ["Name_Alias"],
    ["NFC_Quick_Check", "NFC_QC"], ["NFD_Quick_Check", "NFD_QC"], ["NFKC_Casefold", "NFKC_CF"],
    ["NFKC_Quick_Check", "NFKC_QC"], ["NFKC_Simple_Casefold", "NFKC_SCF"],
    ["NFKD_Quick_Check", "NFKD_QC"], ["Noncharacter_Code_Point", "NChar"],
    ["Numeric_Type", "nt"], ["Numeric_Value", "nv"], ["Other_Alphabetic", "OAlpha"],
    ["Other_Default_Ignorable_Code_Point", "ODI"], ["Other_Grapheme_Extend", "OGr_Ext"],
    ["Other_ID_Continue", "OIDC"], ["Other_ID_Start", "OIDS"], ["Other_Lowercase", "OLower"],
    ["Other_Math", "OMath"], ["Other_Uppercase", "OUpper"], ["Pattern_Syntax", "Pat_Syn"],
    ["Pattern_White_Space", "Pat_WS"], ["Prepended_Concatenation_Mark", "PCM"],
    ["Quotation_Mark", "QMark"], ["Radical"], ["Regional_Indicator", "RI"], ["Script", "sc"],
    ["Script_Extensions", "scx"], ["Sentence_Break", "SB"], ["Sentence_Terminal", "STerm"],
    ["Simple_Case_Folding", "scf", "sfc"], ["Simple_Lowercase_Mapping", "slc"],
    ["Simple_Titlecase_Mapping", "stc"], ["Simple_Uppercase_Mapping", "suc"],
    ["Soft_Dotted", "SD"], ["Terminal_Punctuation", "Term"], ["Titlecase_Mapping", "tc"],
    ["Unicode_1_Name", "na1"], ["Unified_Ideograph", "UIdeo"], ["Uppercase", "Upper"],
    ["Uppercase_Mapping", "uc"], ["Variation_Selector", "VS"], ["Vertical_Orientation", "vo"],
    ["White_Space", "WSpace", "space"], ["Word_Break", "WB"], ["XID_Continue", "XIDC"],
    ["XID_Start", "XIDS"] ]

/-- The general categories. -/
def generalCategoryNames : List (List String) :=
  [ ["C", "Other"], ["Cc", "Control", "cntrl"], ["Cf", "Format"], ["Cn", "Unassigned"],
    ["Co", "Private_Use"], ["Cs", "Surrogate"], ["L", "Letter"], ["LC", "Cased_Letter"],
    ["Ll", "Lowercase_Letter"], ["Lm", "Modifier_Letter"], ["Lo", "Other_Letter"],
    ["Lt", "Titlecase_Letter"], ["Lu", "Uppercase_Letter"], ["M", "Mark", "Combining_Mark"],
    ["Mc", "Spacing_Mark"], ["Me", "Enclosing_Mark"], ["Mn", "Nonspacing_Mark"],
    ["N", "Number"], ["Nd", "Decimal_Number", "digit"], ["Nl", "Letter_Number"],
    ["No", "Other_Number"], ["P", "Punctuation", "punct"], ["Pc", "Connector_Punctuation"],
    ["Pd", "Dash_Punctuation"], ["Pe", "Close_Punctuation"], ["Pf", "Final_Punctuation"],
    ["Pi", "Initial_Punctuation"], ["Po", "Other_Punctuation"], ["Ps", "Open_Punctuation"],
    ["S", "Symbol"], ["Sc", "Currency_Symbol"], ["Sk", "Modifier_Symbol"],
    ["Sm", "Math_Symbol"], ["So", "Other_Symbol"], ["Z", "Separator"], ["Zl", "Line_Separator"],
    ["Zp", "Paragraph_Separator"], ["Zs", "Space_Separator"] ]

/-- The scripts. -/
def scriptNames : List (List String) :=
  [ ["Adlm", "Adlam"], ["Aghb", "Caucasian_Albanian"], ["Ahom", "Ahom"], ["Arab", "Arabic"],
    ["Armi", "Imperial_Aramaic"], ["Armn", "Armenian"], ["Avst", "Avestan"],
    ["Bali", "Balinese"], ["Bamu", "Bamum"], ["Bass", "Bassa_Vah"], ["Batk", "Batak"],
    ["Beng", "Bengali"], ["Bhks", "Bhaiksuki"], ["Bopo", "Bopomofo"], ["Brah", "Brahmi"],
    ["Brai", "Braille"], ["Bugi", "Buginese"], ["Buhd", "Buhid"], ["Cakm", "Chakma"],
    ["Cans", "Canadian_Aboriginal"], ["Cari", "Carian"], ["Cham", "Cham"], ["Cher", "Cherokee"],
    ["Chrs", "Chorasmian"], ["Copt", "Coptic", "Qaac"], ["Cpmn", "Cypro_Minoan"],
    ["Cprt", "Cypriot"], ["Cyrl", "Cyrillic"], ["Deva", "Devanagari"], ["Diak", "Dives_Akuru"],
    ["Dogr", "Dogra"], ["Dsrt", "Deseret"], ["Dupl", "Duployan"],
    ["Egyp", "Egyptian_Hieroglyphs"], ["Elba", "Elbasan"], ["Elym", "Elymaic"],
    ["Ethi", "Ethiopic"], ["Gara", "Garay"], ["Geor", "Georgian"], ["Glag", "Glagolitic"],
    ["Gong", "Gunjala_Gondi"], ["Gonm", "Masaram_Gondi"], ["Goth", "Gothic"],
    ["Gran", "Grantha"], ["Grek", "Greek"], ["Gujr", "Gujarati"], ["Gukh", "Gurung_Khema"],
    ["Guru", "Gurmukhi"], ["Hang", "Hangul"], ["Hani", "Han"], ["Hano", "Hanunoo"],
    ["Hatr", "Hatran"], ["Hebr", "Hebrew"], ["Hira", "Hiragana"],
    ["Hluw", "Anatolian_Hieroglyphs"], ["Hmng", "Pahawh_Hmong"],
    ["Hmnp", "Nyiakeng_Puachue_Hmong"], ["Hrkt", "Katakana_Or_Hiragana"],
    ["Hung", "Old_Hungarian"], ["Ital", "Old_Italic"], ["Java", "Javanese"],
    ["Kali", "Kayah_Li"], ["Kana", "Katakana"], ["Kawi", "Kawi"], ["Khar", "Kharoshthi"],
    ["Khmr", "Khmer"], ["Khoj", "Khojki"], ["Kits", "Khitan_Small_Script"], ["Knda", "Kannada"],
    ["Krai", "Kirat_Rai"], ["Kthi", "Kaithi"], ["Lana", "Tai_Tham"], ["Laoo", "Lao"],
    ["Latn", "Latin"], ["Lepc", "Lepcha"], ["Limb", "Limbu"], ["Lina", "Linear_A"],
    ["Linb", "Linear_B"], ["Lisu", "Lisu"], ["Lyci", "Lycian"], ["Lydi", "Lydian"],
    ["Mahj", "Mahajani"], ["Maka", "Makasar"], ["Mand", "Mandaic"], ["Mani", "Manichaean"],
    ["Marc", "Marchen"], ["Medf", "Medefaidrin"], ["Mend", "Mende_Kikakui"],
    ["Merc", "Meroitic_Cursive"], ["Mero", "Meroitic_Hieroglyphs"], ["Mlym", "Malayalam"],
    ["Modi", "Modi"], ["Mong", "Mongolian"], ["Mroo", "Mro"], ["Mtei", "Meetei_Mayek"],
    ["Mult", "Multani"], ["Mymr", "Myanmar"], ["Nagm", "Nag_Mundari"], ["Nand", "Nandinagari"],
    ["Narb", "Old_North_Arabian"], ["Nbat", "Nabataean"], ["Newa", "Newa"], ["Nkoo", "Nko"],
    ["Nshu", "Nushu"], ["Ogam", "Ogham"], ["Olck", "Ol_Chiki"], ["Onao", "Ol_Onal"],
    ["Orkh", "Old_Turkic"], ["Orya", "Oriya"], ["Osge", "Osage"], ["Osma", "Osmanya"],
    ["Ougr", "Old_Uyghur"], ["Palm", "Palmyrene"], ["Pauc", "Pau_Cin_Hau"],
    ["Perm", "Old_Permic"], ["Phag", "Phags_Pa"], ["Phli", "Inscriptional_Pahlavi"],
    ["Phlp", "Psalter_Pahlavi"], ["Phnx", "Phoenician"], ["Plrd", "Miao"],
    ["Prti", "Inscriptional_Parthian"], ["Rjng", "Rejang"], ["Rohg", "Hanifi_Rohingya"],
    ["Runr", "Runic"], ["Samr", "Samaritan"], ["Sarb", "Old_South_Arabian"],
    ["Saur", "Saurashtra"], ["Sgnw", "SignWriting"], ["Shaw", "Shavian"], ["Shrd", "Sharada"],
    ["Sidd", "Siddham"], ["Sind", "Khudawadi"], ["Sinh", "Sinhala"], ["Sogd", "Sogdian"],
    ["Sogo", "Old_Sogdian"], ["Sora", "Sora_Sompeng"], ["Soyo", "Soyombo"],
    ["Sund", "Sundanese"], ["Sunu", "Sunuwar"], ["Sylo", "Syloti_Nagri"], ["Syrc", "Syriac"],
    ["Tagb", "Tagbanwa"], ["Takr", "Takri"], ["Tale", "Tai_Le"], ["Talu", "New_Tai_Lue"],
    ["Taml", "Tamil"], ["Tang", "Tangut"], ["Tavt", "Tai_Viet"], ["Telu", "Telugu"],
    ["Tfng", "Tifinagh"], ["Tglg", "Tagalog"], ["Thaa", "Thaana"], ["Thai", "Thai"],
    ["Tibt", "Tibetan"], ["Tirh", "Tirhuta"], ["Tnsa", "Tangsa"], ["Todr", "Todhri"],
    ["Toto", "Toto"], ["Tutg", "Tulu_Tigalari"], ["Ugar", "Ugaritic"], ["Vaii", "Vai"],
    ["Vith", "Vithkuqi"], ["Wara", "Warang_Citi"], ["Wcho", "Wancho"], ["Xpeo", "Old_Persian"],
    ["Xsux", "Cuneiform"], ["Yezi", "Yezidi"], ["Yiii", "Yi"], ["Zanb", "Zanabazar_Square"],
    ["Zinh", "Inherited", "Qaai"], ["Zyyy", "Common"], ["Zzzz", "Unknown"] ]

/-- The versions of the standard. -/
def ageNames : List (List String) :=
  [ ["1.1", "V1_1"], ["2.0", "V2_0"], ["2.1", "V2_1"], ["3.0", "V3_0"], ["3.1", "V3_1"],
    ["3.2", "V3_2"], ["4.0", "V4_0"], ["4.1", "V4_1"], ["5.0", "V5_0"], ["5.1", "V5_1"],
    ["5.2", "V5_2"], ["6.0", "V6_0"], ["6.1", "V6_1"], ["6.2", "V6_2"], ["6.3", "V6_3"],
    ["7.0", "V7_0"], ["8.0", "V8_0"], ["9.0", "V9_0"], ["10.0", "V10_0"], ["11.0", "V11_0"],
    ["12.0", "V12_0"], ["12.1", "V12_1"], ["13.0", "V13_0"], ["14.0", "V14_0"],
    ["15.0", "V15_0"], ["15.1", "V15_1"], ["16.0", "V16_0"], ["NA", "Unassigned"] ]

def graphemeClusterBreakNames : List (List String) :=
  [ ["CN", "Control"], ["CR"], ["EB", "E_Base"], ["EBG", "E_Base_GAZ"], ["EM", "E_Modifier"],
    ["EX", "Extend"], ["GAZ", "Glue_After_Zwj"], ["L"], ["LF"], ["LV"], ["LVT"],
    ["PP", "Prepend"], ["RI", "Regional_Indicator"], ["SM", "SpacingMark"], ["T"], ["V"],
    ["XX", "Other"], ["ZWJ"] ]

def wordBreakNames : List (List String) :=
  [ ["CR"], ["DQ", "Double_Quote"], ["EB", "E_Base"], ["EBG", "E_Base_GAZ"],
    ["EM", "E_Modifier"], ["EX", "ExtendNumLet"], ["Extend"], ["FO", "Format"],
    ["GAZ", "Glue_After_Zwj"], ["HL", "Hebrew_Letter"], ["KA", "Katakana"], ["LE", "ALetter"],
    ["LF"], ["MB", "MidNumLet"], ["ML", "MidLetter"], ["MN", "MidNum"], ["NL", "Newline"],
    ["NU", "Numeric"], ["RI", "Regional_Indicator"], ["SQ", "Single_Quote"], ["WSegSpace"],
    ["XX", "Other"], ["ZWJ"] ]

def sentenceBreakNames : List (List String) :=
  [ ["AT", "ATerm"], ["CL", "Close"], ["CR"], ["EX", "Extend"], ["FO", "Format"],
    ["LE", "OLetter"], ["LF"], ["LO", "Lower"], ["NU", "Numeric"], ["SC", "SContinue"],
    ["SE", "Sep"], ["SP", "Sp"], ["ST", "STerm"], ["UP", "Upper"], ["XX", "Other"] ]

end ProtoSchema.Unicode.Table
