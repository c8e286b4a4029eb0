import IdentityProvider.Text.Blank
/-! The markup of a document as a list of tokens. A scan stops at the first piece of markup that is ill formed,
and its last token then is `malformed`. Names are not checked, but an end tag bears the name of the tag that it
closes. -/

namespace IdentityProvider.Xml

inductive Token where
  | startTag (name attributes : List Char)
  | emptyTag (name attributes : List Char)
  | endTag (name : List Char)
  | text (raw : List Char)
  | cdata (content : List Char)
  | comment
  | instruction
  | doctype
  | malformed
deriving Repr, DecidableEq

/-- Splits a tag from what follows its end, which is the first `>` outside quotes. -/
def splitTag (quote : Option Char) (read : List Char) : List Char → Option (List Char × List Char)
  | [] => none
  | c :: cs =>
    match quote with
    | some q => splitTag (if c = q then none else some q) (c :: read) cs
    | none =>
      if c = '>' then some (read.reverse, cs)
      else splitTag (if c = '"' ∨ c = '\'' then some c else none) (c :: read) cs

theorem length_lt_of_splitTag {quote : Option Char} {read cs tag rest : List Char}
    (h : splitTag quote read cs = some (tag, rest)) : rest.length < cs.length := by
  fun_induction splitTag quote read cs with
  | case1 => simp at h
  | case2 _ c cs q ih => have := ih h; simp; omega
  | case3 => simp at h; simp [h]
  | case4 _ c cs _ ih => have := ih h; simp; omega

def splitAtMarker (marker read : List Char) : List Char → Option (List Char × List Char)
  | [] => none
  | c :: cs =>
    if marker.isPrefixOf (c :: cs) then some (read.reverse, (c :: cs).drop marker.length)
    else splitAtMarker marker (c :: read) cs

theorem length_le_of_splitAtMarker {marker read cs before rest : List Char}
    (h : splitAtMarker marker read cs = some (before, rest)) : rest.length ≤ cs.length := by
  fun_induction splitAtMarker marker read cs with
  | case1 => simp at h
  | case2 _ c cs hm => simp at h; simp [← h.2]
  | case3 _ c cs hm ih => have := ih h; simp; omega

/-- Splits a document type declaration from what follows its end: the first `>` that closes no `<` in it. -/
def splitDoctype (depth : Nat) (read : List Char) : List Char → Option (List Char × List Char)
  | [] => none
  | c :: cs =>
    if c = '>' then
      match depth with
      | 0 => some (read.reverse, cs)
      | d + 1 => splitDoctype d (c :: read) cs
    else splitDoctype (if c = '<' then depth + 1 else depth) (c :: read) cs

theorem length_lt_of_splitDoctype {depth : Nat} {read cs body rest : List Char}
    (h : splitDoctype depth read cs = some (body, rest)) : rest.length < cs.length := by
  fun_induction splitDoctype depth read cs with
  | case1 => simp at h
  | case2 => simp at h; simp [h]
  | case3 _ cs d ih => have := ih h; simp; omega
  | case4 _ _ c cs _ ih => have := ih h; simp; omega

def isDoctype (body : List Char) : Bool :=
  (body.take 7).map Char.toUpper == "DOCTYPE".toList && !(body.drop 7).all Text.isMarkupBlank

def tagName (tag : List Char) : List Char :=
  tag.takeWhile (fun c => !Text.isMarkupBlank c)

def tagAttributes (tag : List Char) : List Char :=
  tag.dropWhile (fun c => !Text.isMarkupBlank c)

/-- The name in an end tag, without the blanks after it. A tag of blanks alone is its own name. -/
def endTagName (tag : List Char) : List Char :=
  if tag.all Text.isMarkupBlank then tag else (tag.reverse.dropWhile Text.isMarkupBlank).reverse

theorem length_dropWhile_le {α : Type} (p : α → Bool) (xs : List α) : (xs.dropWhile p).length ≤ xs.length :=
  (List.dropWhile_sublist p).length_le

def stripMarker? (marker cs : List Char) : Option (List Char) :=
  if marker.isPrefixOf cs then some (cs.drop marker.length) else none

def readDeclaration? (cs : List Char) : Option (Token × List Char) :=
  match stripMarker? "--".toList cs, stripMarker? "[CDATA[".toList cs with
  | some body, _ => (splitAtMarker "-->".toList [] body).map fun (_, rest) => (.comment, rest)
  | none, some body =>
    (splitAtMarker "]]>".toList [] body).map fun (content, rest) => (.cdata content, rest)
  | none, none =>
    (splitDoctype 0 [] cs).bind fun (body, rest) => if isDoctype body then some (.doctype, rest) else none

def readInstruction? (cs : List Char) : Option (Token × List Char) :=
  if cs.head? = some '>' then none
  else (splitAtMarker "?>".toList [] cs).map fun (_, rest) => (.instruction, rest)

def readStartTag? (cs : List Char) : Option (Token × List Char) :=
  (splitTag none [] cs).map fun (tag, rest) =>
    if tag.getLast? = some '/' then (.emptyTag (tagName tag.dropLast) (tagAttributes tag.dropLast), rest)
    else (.startTag (tagName tag) (tagAttributes tag), rest)

def readMarkup? : List Char → Option (Token × List Char)
  | '!' :: cs => readDeclaration? cs
  | '?' :: cs => readInstruction? cs
  | '/' :: cs => (splitTag none [] cs).map fun (tag, rest) => (.endTag (endTagName tag), rest)
  | cs => readStartTag? cs

theorem length_le_of_stripMarker? {marker cs rest : List Char} (h : stripMarker? marker cs = some rest) :
    rest.length ≤ cs.length := by
  simp only [stripMarker?, Option.ite_none_right_eq_some, Option.some.injEq] at h
  simp [← h.2]

theorem length_le_of_readDeclaration? {cs rest : List Char} {t : Token}
    (h : readDeclaration? cs = some (t, rest)) : rest.length ≤ cs.length := by
  unfold readDeclaration? at h
  split at h
  · rename_i body hb
    obtain ⟨⟨_, r⟩, hs, he⟩ := Option.map_eq_some_iff.1 h
    obtain ⟨_, rfl⟩ := Prod.mk.inj he
    exact Nat.le_trans (length_le_of_splitAtMarker hs) (length_le_of_stripMarker? hb)
  · rename_i body _ hb
    obtain ⟨⟨_, r⟩, hs, he⟩ := Option.map_eq_some_iff.1 h
    obtain ⟨_, rfl⟩ := Prod.mk.inj he
    exact Nat.le_trans (length_le_of_splitAtMarker hs) (length_le_of_stripMarker? hb)
  · obtain ⟨⟨body, r⟩, hs, he⟩ := Option.bind_eq_some_iff.1 h
    dsimp only at he
    split at he
    · obtain ⟨_, rfl⟩ := Prod.mk.inj (Option.some.inj he)
      exact Nat.le_of_lt (length_lt_of_splitDoctype hs)
    · cases he

theorem length_le_of_readStartTag? {cs rest : List Char} {t : Token}
    (h : readStartTag? cs = some (t, rest)) :
    rest.length ≤ cs.length := by
  obtain ⟨⟨tag, r⟩, hs, he⟩ := Option.map_eq_some_iff.1 h
  have hr : r = rest := by
    dsimp only at he
    split at he <;> exact (Prod.mk.inj he).2
  exact hr ▸ Nat.le_of_lt (length_lt_of_splitTag hs)

theorem length_le_of_readMarkup? {cs rest : List Char} {t : Token} (h : readMarkup? cs = some (t, rest)) :
    rest.length ≤ cs.length := by
  unfold readMarkup? at h
  split at h
  · exact Nat.le_succ_of_le (length_le_of_readDeclaration? h)
  · unfold readInstruction? at h
    split at h
    · cases h
    · obtain ⟨⟨_, r⟩, hs, he⟩ := Option.map_eq_some_iff.1 h
      obtain ⟨_, rfl⟩ := Prod.mk.inj he
      exact Nat.le_succ_of_le (length_le_of_splitAtMarker hs)
  · obtain ⟨⟨_, r⟩, hs, he⟩ := Option.map_eq_some_iff.1 h
    obtain ⟨_, rfl⟩ := Prod.mk.inj he
    exact Nat.le_succ_of_le (Nat.le_of_lt (length_lt_of_splitTag hs))
  · exact length_le_of_readStartTag? h

def tokens : List Char → List Token
  | [] => []
  | c :: cs =>
    if c = '<' then
      match _ : readMarkup? cs with
      | some (t, rest) => t :: tokens rest
      | none => [.malformed]
    else .text (c :: cs.takeWhile (· != '<')) :: tokens (cs.dropWhile (· != '<'))
termination_by cs => cs.length
decreasing_by
  · rename_i h
    have := length_le_of_readMarkup? h
    simp
    omega
  · have := length_dropWhile_le (· != '<') cs
    simp
    omega

/-- Cuts the tokens at the first end tag that does not bear the name of the innermost open tag. -/
def nested (opened : List (List Char)) : List Token → List Token
  | [] => []
  | .startTag name attributes :: ts => .startTag name attributes :: nested (name :: opened) ts
  | .endTag name :: ts =>
    match opened with
    | innermost :: outer => if name = innermost then .endTag name :: nested outer ts else [.malformed]
    | [] => [.malformed]
  | t :: ts => t :: nested opened ts

def dropByteOrderMark (cs : List Char) : List Char :=
  if cs.head? = some '\uFEFF' then cs.tail else cs

def scan (document : List Char) : List Token :=
  nested [] (tokens (dropByteOrderMark document))

structure RawAttribute where
  key : List Char
  value : List Char
deriving Repr, DecidableEq

inductive AttributeStep where
  | finished
  | fault
  | attribute (found : RawAttribute) (rest : List Char)

def isKeyChar (c : Char) : Bool :=
  c != '=' && !Text.isMarkupBlank c

def readQuoted? : List Char → Option (List Char × List Char)
  | [] => none
  | q :: cs =>
    if q = '"' ∨ q = '\'' then
      match cs.dropWhile (· != q) with
      | [] => none
      | _ :: rest => some (cs.takeWhile (· != q), rest)
    else none

/-- Reads a key, `=` and a quoted value, with blanks allowed around each. The first character of a key may be
anything but a blank. -/
def readAttribute (cs : List Char) : AttributeStep :=
  match cs.dropWhile Text.isMarkupBlank with
  | [] => .finished
  | k :: cs =>
    match (cs.dropWhile isKeyChar).dropWhile Text.isMarkupBlank with
    | [] => .fault
    | e :: afterEquals =>
      if e = '=' then
        match readQuoted? (afterEquals.dropWhile Text.isMarkupBlank) with
        | some (value, rest) => .attribute ⟨k :: cs.takeWhile isKeyChar, value⟩ rest
        | none => .fault
      else .fault

theorem length_lt_of_readQuoted? {cs value rest : List Char} (h : readQuoted? cs = some (value, rest)) :
    rest.length < cs.length := by
  unfold readQuoted? at h
  split at h
  · simp at h
  · rename_i q cs
    split at h
    · split at h
      · simp at h
      · rename_i hd
        have := congrArg List.length hd
        have := length_dropWhile_le (· != q) cs
        simp at *
        simp [← h.2]
        omega
    · simp at h

theorem length_lt_of_readAttribute {cs rest : List Char} {a : RawAttribute}
    (h : readAttribute cs = .attribute a rest) : rest.length < cs.length := by
  unfold readAttribute at h
  split at h
  · simp at h
  · rename_i k cs' hk
    split at h
    · simp at h
    · rename_i e afterEquals he
      split at h
      · split at h
        · rename_i value rest' hq
          have e1 := congrArg List.length hk
          have e2 := congrArg List.length he
          have l1 := length_dropWhile_le Text.isMarkupBlank cs
          have l2 := length_dropWhile_le Text.isMarkupBlank (cs'.dropWhile isKeyChar)
          have l3 := length_dropWhile_le isKeyChar cs'
          have l4 := length_dropWhile_le Text.isMarkupBlank afterEquals
          have l5 := length_lt_of_readQuoted? hq
          simp only [AttributeStep.attribute.injEq] at h
          simp only [List.length_cons] at e1 e2
          rw [← h.2]
          omega
        · simp at h
      · simp at h

/-- The attributes of a tag up to the first that is ill formed, if one is. -/
structure RawAttributes where
  found : List RawAttribute
  wellFormed : Bool
deriving Repr, DecidableEq

def scanAttributes (seen : List (List Char)) (cs : List Char) : RawAttributes :=
  match _ : readAttribute cs with
  | .finished => ⟨[], true⟩
  | .fault => ⟨[], false⟩
  | .attribute a rest =>
    if a.key ∈ seen then ⟨[], false⟩
    else
      let others := scanAttributes (a.key :: seen) rest
      ⟨a :: others.found, others.wellFormed⟩
termination_by cs.length
decreasing_by
  rename_i h _
  exact length_lt_of_readAttribute h

def readAttributes (cs : List Char) : RawAttributes :=
  scanAttributes [] cs

end IdentityProvider.Xml
