import FipsAudit.Text.Pieces
import FipsAudit.Text.Blank
import FipsAudit.Text.Unicode.Category
import FipsAudit.Text.Unicode.Property
import FipsAudit.Text.Unicode.Script

/-!
# `FipsAudit.Text.Unicode.Name` — character sets by name

The standard names categories, groups of categories, scripts and properties, each by a long name and by
abbreviations. Case, blanks, hyphens and underscores do not count in names, nor does a leading `is`.

* `normalize` — what counts of a name.
* `CharSet` — the sets that have names; `CharSet.contains` is membership.
* `CharSet.named?`, `CharSet.valued?` — the set with a name, or with a property and a value.
-/

namespace FipsAudit.Text.Unicode

/-! ## Names -/

/-- A name without blanks, hyphens and underscores, in small letters. -/
def folded (name : List Char) : List Char :=
  (name.filter fun c => c != ' ' && c != '_' && c != '-' && c.toNat < 0x80).map Char.toLower

/-- What counts of a name. The name `isc` keeps its first letters, because it is no abbreviation of `c`. -/
def normalize (name : List Char) : List Char :=
  match name with
  | a :: b :: r =>
    if a.toLower = 'i' ∧ b.toLower = 's' then
      let rest := folded r
      if rest = ['c'] then ['i', 's', 'c'] else rest
    else folded name
  | _ => folded name

/-- The groups of a table: in each, a name and then its other names. -/
def nameGroups (table : String) : List (List (List Char)) :=
  (pieces ';' table.toList).map fun group => ((pieces ' ' (group.map fun c => if isBlank c then ' ' else c)).filter
    (!·.isEmpty))

/-- The first name of the group that holds a name, which is normalized. -/
def canonical? (groups : List (List (List Char))) (name : List Char) : Option String :=
  (groups.find? (·.any fun n => normalize n = name)).bind fun group => group.head?.map String.ofList

/-- Categories and their groups, by abbreviation. -/
def categoryNames : List (List (List Char)) := nameGroups
  "Lu Uppercase_Letter; Ll Lowercase_Letter; Lt Titlecase_Letter; Lm Modifier_Letter; Lo
    Other_Letter; Mn Nonspacing_Mark; Mc Spacing_Mark; Me Enclosing_Mark; Nd Decimal_Number Digit;
    Nl Letter_Number; No Other_Number; Pc Connector_Punctuation; Pd Dash_Punctuation; Ps
    Open_Punctuation; Pe Close_Punctuation; Pi Initial_Punctuation; Pf Final_Punctuation; Po
    Other_Punctuation; Sm Math_Symbol; Sc Currency_Symbol; Sk Modifier_Symbol; So Other_Symbol; Zs
    Space_Separator; Zl Line_Separator; Zp Paragraph_Separator; Cc Control Cntrl; Cf Format; Cs
    Surrogate; Co Private_Use; Cn Unassigned; C Other; L Letter; LC Cased_Letter; M Mark
    Combining_Mark; N Number; P Punctuation Punct; S Symbol; Z Separator"

/-- Scripts by name. -/
def scriptAliases : List (List (List Char)) := nameGroups
  "Adlam Adlm; Caucasian_Albanian Aghb; Ahom; Arabic Arab; Imperial_Aramaic Armi; Armenian Armn;
    Avestan Avst; Balinese Bali; Bamum Bamu; Bassa_Vah Bass; Batak Batk; Bengali Beng; Bhaiksuki
    Bhks; Bopomofo Bopo; Brahmi Brah; Braille Brai; Buginese Bugi; Buhid Buhd; Chakma Cakm;
    Canadian_Aboriginal Cans; Carian Cari; Cham; Cherokee Cher; Chorasmian Chrs; Coptic Copt Qaac;
    Cypro_Minoan Cpmn; Cypriot Cprt; Cyrillic Cyrl; Devanagari Deva; Dives_Akuru Diak; Dogra Dogr;
    Deseret Dsrt; Duployan Dupl; Egyptian_Hieroglyphs Egyp; Elbasan Elba; Elymaic Elym; Ethiopic
    Ethi; Georgian Geor; Glagolitic Glag; Gunjala_Gondi Gong; Masaram_Gondi Gonm; Gothic Goth;
    Grantha Gran; Greek Grek; Gujarati Gujr; Gurmukhi Guru; Hangul Hang; Han Hani; Hanunoo Hano;
    Hatran Hatr; Hebrew Hebr; Hiragana Hira; Anatolian_Hieroglyphs Hluw; Pahawh_Hmong Hmng;
    Nyiakeng_Puachue_Hmong Hmnp; Old_Hungarian Hung; Old_Italic Ital; Javanese Java; Kayah_Li Kali;
    Katakana Kana; Kawi; Kharoshthi Khar; Khmer Khmr; Khojki Khoj; Khitan_Small_Script Kits; Kannada
    Knda; Kaithi Kthi; Tai_Tham Lana; Lao Laoo; Latin Latn; Lepcha Lepc; Limbu Limb; Linear_A Lina;
    Linear_B Linb; Lisu; Lycian Lyci; Lydian Lydi; Mahajani Mahj; Makasar Maka; Mandaic Mand;
    Manichaean Mani; Marchen Marc; Medefaidrin Medf; Mende_Kikakui Mend; Meroitic_Cursive Merc;
    Meroitic_Hieroglyphs Mero; Malayalam Mlym; Modi; Mongolian Mong; Mro Mroo; Meetei_Mayek Mtei;
    Multani Mult; Myanmar Mymr; Nag_Mundari Nagm; Nandinagari Nand; Old_North_Arabian Narb;
    Nabataean Nbat; Newa; Nko Nkoo; Nushu Nshu; Ogham Ogam; Ol_Chiki Olck; Old_Turkic Orkh; Oriya
    Orya; Osage Osge; Osmanya Osma; Old_Uyghur Ougr; Palmyrene Palm; Pau_Cin_Hau Pauc; Old_Permic
    Perm; Phags_Pa Phag; Inscriptional_Pahlavi Phli; Psalter_Pahlavi Phlp; Phoenician Phnx; Miao
    Plrd; Inscriptional_Parthian Prti; Rejang Rjng; Hanifi_Rohingya Rohg; Runic Runr; Samaritan
    Samr; Old_South_Arabian Sarb; Saurashtra Saur; SignWriting Sgnw; Shavian Shaw; Sharada Shrd;
    Siddham Sidd; Khudawadi Sind; Sinhala Sinh; Sogdian Sogd; Old_Sogdian Sogo; Sora_Sompeng Sora;
    Soyombo Soyo; Sundanese Sund; Syloti_Nagri Sylo; Syriac Syrc; Tagbanwa Tagb; Takri Takr; Tai_Le
    Tale; New_Tai_Lue Talu; Tamil Taml; Tangut Tang; Tai_Viet Tavt; Telugu Telu; Tifinagh Tfng;
    Tagalog Tglg; Thaana Thaa; Thai; Tibetan Tibt; Tirhuta Tirh; Tangsa Tnsa; Toto; Ugaritic Ugar;
    Vai Vaii; Vithkuqi Vith; Warang_Citi Wara; Wancho Wcho; Old_Persian Xpeo; Cuneiform Xsux; Yezidi
    Yezi; Yi Yiii; Zanabazar_Square Zanb; Inherited Zinh Qaai; Common Zyyy; Unknown Zzzz"

/-- Properties by name. -/
def propertyNames : List (List (List Char)) := nameGroups
  "Grapheme_Extend Gr_Ext; Alphabetic Alpha; Lowercase Lower; Uppercase Upper; Cased; Diacritic
    Dia; Dash; Emoji; Hex_Digit Hex; ASCII_Hex_Digit AHex; Ideographic Ideo; Math; Quotation_Mark
    QMark; Join_Control Join_C; Unified_Ideograph UIdeo; Default_Ignorable_Code_Point DI;
    Noncharacter_Code_Point NChar; Pattern_White_Space Pat_WS; Variation_Selector VS;
    Emoji_Presentation EPres; Extender Ext; Terminal_Punctuation Term; Sentence_Terminal STerm;
    Soft_Dotted SD; Bidi_Control Bidi_C; Regional_Indicator RI; White_Space WSpace Space"

/-! ## Words -/

/-- The category of digits. -/
def isDecimal (c : Char) : Bool := category c == .decimalNumber

/-- The characters of words: letters, marks, digits, connectors and join controls. -/
def isWord (c : Char) : Bool :=
  alphabetic.contains c.toNat || (category c).isMark || isDecimal c || category c == .connectorPunctuation ||
    c.toNat == 0x200C || c.toNat == 0x200D

/-! ## Sets -/

/-- A set of characters that has a name. -/
inductive CharSet where
  | any
  | ascii
  /-- The characters whose category is not `unassigned`. -/
  | assigned
  | blank
  | word
  /-- The characters whose category's abbreviation begins with `group`. -/
  | categories (group : String)
  | casedLetters
  | script (name : String)
  /-- The characters with a property. -/
  | property (set : CodeSet)

/-- Membership. -/
def CharSet.contains : CharSet → Char → Bool
  | any, _ => true
  | ascii, c => c.toNat < 0x80
  | assigned, c => category c != .unassigned
  | blank, c => isBlank c
  | word, c => isWord c
  | categories group, c => group.toList.isPrefixOf (category c).abbreviation.toList
  | casedLetters, c =>
    match category c with
    | .uppercaseLetter | .lowercaseLetter | .titlecaseLetter => true
    | _ => false
  | script name, c => Unicode.script c == name
  | property set, c => set.contains c.toNat

/-- The set of a category or group of categories, by normalized name. -/
def CharSet.category? (name : List Char) : Option CharSet :=
  if name = "any".toList then some .any
  else if name = "assigned".toList then some .assigned
  else if name = "ascii".toList then some .ascii
  else (canonical? categoryNames name).map fun short => if short = "LC" then .casedLetters else .categories short

/-- The set of a script, by normalized name. -/
def CharSet.script? (name : List Char) : Option CharSet := (canonical? scriptAliases name).map .script

/-- The set of a property, by normalized name. -/
def CharSet.property? (name : List Char) : Option CharSet :=
  (canonical? propertyNames name).bind fun long =>
    if long = "White_Space" then some .blank else (Unicode.property? long).map .property

/-- Names that abbreviate a category and not the property of the same abbreviation. -/
def categoryFirst : List (List Char) := ["cf".toList, "sc".toList, "lc".toList]

/-- The set with a name: a property, a category or a script. -/
def CharSet.named? (name : List Char) : Option CharSet :=
  let name := normalize name
  let property := if categoryFirst.contains name then none else property? name
  property.or ((category? name).or (script? name))

/-- The set of the characters that have a value of a property. -/
def CharSet.valued? (property value : List Char) : Option CharSet :=
  let property := normalize property
  let value := normalize value
  if property = "gc".toList ∨ property = "generalcategory".toList then category? value
  else if property = "sc".toList ∨ property = "script".toList then script? value
  else none

end FipsAudit.Text.Unicode
