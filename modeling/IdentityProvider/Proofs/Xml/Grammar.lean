import IdentityProvider.Proofs.Xml.Name
import IdentityProvider.Text.Numeral
import IdentityProvider.Xml.Markup
/-! The documents of XML 1.0 by the productions of the standard, whatever a reader makes of them. No entity is
declared but the five that always are. A document type has a name and an end, and angle brackets stand in it in
pairs; what else it says is left open. -/

namespace IdentityProvider.Xml

open Text (isMarkupBlank)

def IsName : List Char → Prop
  | [] => False
  | c :: cs => (isNameStart c = true ∨ c = ':') ∧ ∀ d ∈ cs, isNameChar d = true ∨ d = ':'

def predefinedEntities : List (List Char) :=
  ["lt".toList, "gt".toList, "amp".toList, "apos".toList, "quot".toList]

/-- What stands between the ampersand and the semicolon. -/
inductive IsReference : List Char → Prop
  | entity {name : List Char} : name ∈ predefinedEntities → IsReference name
  | decimal {digits : List Char} {c : Char} : Text.numeral 10 Text.decimalValue digits = some c.toNat →
      isXmlChar c = true → IsReference ('#' :: digits)
  | hexadecimal {digits : List Char} {c : Char} : Text.numeral 16 Text.hexValue digits = some c.toNat →
      isXmlChar c = true → IsReference ('#' :: 'x' :: digits)

inductive IsParsedData : List Char → Prop
  | nil : IsParsedData []
  | literal {c : Char} {cs : List Char} : c ≠ '<' → c ≠ '&' → IsParsedData cs → IsParsedData (c :: cs)
  | reference {name cs : List Char} : IsReference name → IsParsedData cs →
      IsParsedData ('&' :: (name ++ ';' :: cs))

inductive IsAttributeList : List Char → List RawAttribute → Prop
  | none {blanks : List Char} : blanks.all isMarkupBlank = true → IsAttributeList blanks []
  | cons {before key beforeSign afterSign value rest : List Char} {quote : Char} {found : List RawAttribute} :
      before ≠ [] → before.all isMarkupBlank = true → IsName key → beforeSign.all isMarkupBlank = true →
      afterSign.all isMarkupBlank = true → quote = '"' ∨ quote = '\'' → quote ∉ value → IsParsedData value →
      IsAttributeList rest found →
      IsAttributeList (before ++ (key ++ (beforeSign ++ '=' :: (afterSign ++ quote :: (value ++ quote :: rest)))))
        (⟨key, value⟩ :: found)

def AreAttributes (cs : List Char) : Prop :=
  ∃ found, IsAttributeList cs found ∧ (found.map RawAttribute.key).Nodup

inductive IsStartTag (name : List Char) : List Char → Prop
  | mk {attributes : List Char} : IsName name → AreAttributes attributes →
      IsStartTag name ('<' :: (name ++ attributes ++ ['>']))

inductive IsEmptyTag : List Char → Prop
  | mk {name attributes : List Char} : IsName name → AreAttributes attributes →
      IsEmptyTag ('<' :: (name ++ attributes ++ ['/', '>']))

inductive IsEndTag (name : List Char) : List Char → Prop
  | mk {blanks : List Char} : IsName name → blanks.all isMarkupBlank = true →
      IsEndTag name ('<' :: '/' :: (name ++ blanks ++ ['>']))

structure IsCharData (raw : List Char) : Prop where
  parsed : IsParsedData raw
  unclosed : ¬ "]]>".toList <:+: raw

inductive IsCData : List Char → Prop
  | mk {content : List Char} : ¬ "]]>".toList <:+: content →
      IsCData ("<![CDATA[".toList ++ (content ++ "]]>".toList))

inductive IsComment : List Char → Prop
  | mk {body : List Char} : ¬ "--".toList <:+: body → body.getLast? ≠ some '-' →
      IsComment ("<!--".toList ++ (body ++ "-->".toList))

inductive IsInstruction : List Char → Prop
  | mk {target body : List Char} : IsName target → target.map Char.toLower ≠ "xml".toList →
      body.head?.all isMarkupBlank = true → ¬ "?>".toList <:+: body →
      IsInstruction ("<?".toList ++ (target ++ body ++ "?>".toList))

/-- Text in which each `<` has its `>`. -/
inductive IsPaired : List Char → Prop
  | nil : IsPaired []
  | plain {c : Char} {cs : List Char} : c ≠ '<' → c ≠ '>' → IsPaired cs → IsPaired (c :: cs)
  | pair {inside cs : List Char} : IsPaired inside → IsPaired cs → IsPaired ('<' :: (inside ++ '>' :: cs))

inductive IsDoctype : List Char → Prop
  | mk {blanks name body : List Char} : blanks ≠ [] → blanks.all isMarkupBlank = true → IsName name →
      body.head?.all (fun c => isMarkupBlank c || c == '[') = true → IsPaired body →
      IsDoctype ("<!DOCTYPE".toList ++ (blanks ++ name ++ body ++ ['>']))

inductive IsDeclared : RawAttribute → Prop
  | version {digits : List Char} : digits ≠ [] → digits.all Char.isDigit = true →
      IsDeclared ⟨"version".toList, "1.".toList ++ digits⟩
  | encoding {c : Char} {cs : List Char} : c.isAlpha = true →
      cs.all (fun d => d.isAlphanum || ['.', '_', '-'].contains d) = true → IsDeclared ⟨"encoding".toList, c :: cs⟩
  | standalone {value : List Char} : value = "yes".toList ∨ value = "no".toList →
      IsDeclared ⟨"standalone".toList, value⟩

inductive IsDeclaration : List Char → Prop
  | mk {attributes : List Char} {version : RawAttribute} {found : List RawAttribute} :
      IsAttributeList attributes (version :: found) → version.key = "version".toList →
      (found.map RawAttribute.key).Sublist ["encoding".toList, "standalone".toList] →
      (∀ a ∈ version :: found, IsDeclared a) → IsDeclaration ("<?xml".toList ++ (attributes ++ "?>".toList))

inductive IsContent : List Char → Prop
  | text {raw : List Char} : IsCharData raw → IsContent raw
  | markup {raw word rest : List Char} : IsCharData raw →
      IsEmptyTag word ∨ IsCData word ∨ IsComment word ∨ IsInstruction word → IsContent rest →
      IsContent (raw ++ (word ++ rest))
  | element {raw name start inside stop rest : List Char} : IsCharData raw → IsStartTag name start →
      IsContent inside →
      IsEndTag name stop → IsContent rest → IsContent (raw ++ (start ++ (inside ++ (stop ++ rest))))

inductive IsElement : List Char → Prop
  | childless {word : List Char} : IsEmptyTag word → IsElement word
  | parent {name start inside stop : List Char} : IsStartTag name start → IsContent inside → IsEndTag name stop →
      IsElement (start ++ (inside ++ stop))

inductive IsMisc : List Char → Prop
  | blanks {cs : List Char} : cs.all isMarkupBlank = true → IsMisc cs
  | markup {cs word rest : List Char} : cs.all isMarkupBlank = true → IsComment word ∨ IsInstruction word →
      IsMisc rest →
      IsMisc (cs ++ (word ++ rest))

inductive IsBody : List Char → Prop
  | mk {before doctype root after : List Char} : IsMisc before →
      (doctype = [] ∨ ∃ word misc, IsDoctype word ∧ IsMisc misc ∧ doctype = word ++ misc) → IsElement root →
      IsMisc after → IsBody (before ++ (doctype ++ (root ++ after)))

inductive IsRooted : List Char → Prop
  | mk {mark declaration body : List Char} : mark = [] ∨ mark = ['\uFEFF'] →
      declaration = [] ∨ IsDeclaration declaration → IsBody body → IsRooted (mark ++ (declaration ++ body))

structure IsDocument (cs : List Char) : Prop where
  rooted : IsRooted cs
  characters : ∀ c ∈ cs, isXmlChar c = true

example : IsDocument "<a k='&lt;'/>".toList where
  rooted := by
    have hvalue : IsParsedData "&lt;".toList :=
      @IsParsedData.reference "lt".toList [] (.entity (by simp [predefinedEntities])) .nil
    have hlist : IsAttributeList " k='&lt;'".toList [⟨['k'], "&lt;".toList⟩] :=
      @IsAttributeList.cons [' '] ['k'] [] [] "&lt;".toList [] '\'' [] (by simp) rfl ⟨.inl rfl, nofun⟩ rfl rfl
        (.inr rfl) (by decide) hvalue (.none rfl)
    have hroot : IsElement "<a k='&lt;'/>".toList :=
      .childless (@IsEmptyTag.mk ['a'] " k='&lt;'".toList ⟨.inl rfl, nofun⟩ ⟨_, hlist, by simp⟩)
    have hblank : IsMisc [] := .blanks rfl
    have hbody : IsBody "<a k='&lt;'/>".toList := @IsBody.mk [] [] _ [] hblank (.inl rfl) hroot hblank
    exact .mk (.inl rfl) (.inl rfl) hbody
  characters := List.all_eq_true.mp rfl

end IdentityProvider.Xml
