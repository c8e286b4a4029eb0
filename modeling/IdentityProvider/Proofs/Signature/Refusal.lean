import IdentityProvider.Proofs.RelyingParty
/-! Trees that cannot be written. Writing a tree and finding its canonical form stop at one and the same
character, so what has been signed can be delivered. -/

namespace IdentityProvider

namespace Text

lemma numeral_append_one {base : Nat} {digit : Char → Option Nat} {cs : List Char} {n d : Nat} {c : Char}
    (h : numeral base digit cs = some n) (hc : digit c = some d) :
    numeral base digit (cs ++ [c]) = some (base * n + d) := by
  cases cs with
  | nil => cases h
  | cons b cs =>
    rw [numeral] at h
    rw [List.cons_append, numeral, ← List.cons_append, List.foldlM_append, h]
    simp [hc]

lemma hexValue_hexDigit (upper : Bool) {n : Nat} (h : n < 16) : hexValue (hexDigit upper n) = some n := by
  have hall : ∀ m : Fin 16, hexValue (hexDigit upper m) = some m.val := by
    cases upper <;> decide
  exact hall ⟨n, h⟩

lemma numeral_hexDigits (upper : Bool) (n : Nat) : numeral 16 hexValue (hexDigits upper n) = some n := by
  induction n using Nat.strongRecOn with
  | _ n ih =>
    rw [hexDigits]
    split_ifs with hn
    · simp [numeral, hexValue_hexDigit upper hn]
    · rw [numeral_append_one (ih (n / 16) (by omega)) (hexValue_hexDigit upper (Nat.mod_lt n (by decide))),
        Nat.div_add_mod]

lemma numeral_zeros {cs : List Char} {n : Nat} (h : numeral 16 hexValue cs = some n) (width : Nat) :
    numeral 16 hexValue (List.replicate width '0' ++ cs) = some n := by
  have hzero : (hexValue '0').map (16 * 0 + ·) = some 0 := by decide
  induction width with
  | zero => exact h
  | succ width ih =>
    rw [List.replicate_succ, List.cons_append, numeral, List.foldlM_cons, hzero]
    cases hcs : List.replicate width '0' ++ cs with
    | nil =>
      rw [hcs] at ih
      cases ih
    | cons c cs' =>
      rw [hcs, numeral] at ih
      exact ih

lemma numeral_paddedHex (upper : Bool) (width n : Nat) : numeral 16 hexValue (paddedHex upper width n) = some n :=
  numeral_zeros (numeral_hexDigits upper n) _

end Text

open Xml

lemma characterFailure_injective : Function.Injective Signature.characterFailure := by
  intro f g h
  rw [Signature.characterFailure, Signature.characterFailure, Failure.serialization.injEq, Forbidden.message,
    Forbidden.message, String.append_left_inj, String.append_right_inj, String.ofList_inj] at h
  have hcode := congrArg (Text.numeral 16 Text.hexValue) h
  rw [Text.numeral_paddedHex, Text.numeral_paddedHex, Option.some.injEq, Char.toNat_inj] at hcode
  cases f
  cases g
  exact congrArg Forbidden.mk hcode

namespace Xml

mutual

def Node.characters : Node → List Char
  | .element name attributes children =>
    name.toList ++ attributes.flatMap (fun a => a.1.toList ++ a.2.toList) ++ charactersOf children
  | .text content => content.toList

def charactersOf : List Node → List Char
  | [] => []
  | n :: ns => n.characters ++ charactersOf ns

end

def Element.firstForbidden? (e : Element) : Option Forbidden :=
  (e.toNode.characters.find? fun c => !isXmlChar c).map Forbidden.mk

lemma checkChars_error_iff {cs : List Char} {f : Forbidden} :
    checkChars cs = .error f ↔ (cs.find? fun c => !isXmlChar c).map Forbidden.mk = some f := by
  induction cs with
  | nil => simp [checkChars]
  | cons c cs ih =>
    by_cases hc : isXmlChar c = true
    · rw [checkChars, if_pos hc, ih, List.find?_cons_of_neg (by simp [hc])]
    · rw [checkChars, if_neg hc, List.find?_cons_of_pos (by simpa using hc)]
      simp

lemma checkAttributes_eq (attributes : List Attribute) :
    checkAttributes attributes = checkChars (attributes.flatMap fun a => a.1.toList ++ a.2.toList) := by
  induction attributes with
  | nil => rfl
  | cons a attributes ih =>
    rw [List.flatMap_cons, checkChars_append, checkChars_append, checkAttributes, ih]
    cases checkChars a.1.toList <;> rfl

lemma checkNodes_eq (ns : List Node) : checkNodes ns = checkChars (charactersOf ns) := by
  induction ns using nodes_induction with
  | nil => rfl
  | text content ns ih => rw [checkNodes, charactersOf, checkChars_append, ih, checkNode, Node.characters]
  | element name attributes children ns ihc ih =>
    rw [checkNodes, charactersOf, checkChars_append, ih, checkNode, Node.characters, checkChars_append,
      checkChars_append, ihc, checkAttributes_eq]
    cases checkChars name.toList <;> rfl

lemma checkNode_error_iff {e : Element} {f : Forbidden} :
    checkNode e.toNode = .error f ↔ e.firstForbidden? = some f := by
  rw [Element.firstForbidden?, ← checkChars_error_iff, Element.toNode, checkNode, Node.characters,
    checkChars_append, checkChars_append, checkAttributes_eq, checkNodes_eq]
  cases checkChars e.name.toList <;> rfl

lemma toXml_error_iff {e : Element} {f : Forbidden} : e.toXml = .error f ↔ e.firstForbidden? = some f := by
  rw [← checkNode_error_iff, Element.toXml, writeNode_eq]
  cases checkNode e.toNode <;> simp [bind, Except.bind, pure, Except.pure, Except.map]

lemma canonicalizeIn_error_iff {e : Element} {inherited : List Attribute} {f : Forbidden} :
    e.canonicalizeIn inherited = .error f ↔ e.firstForbidden? = some f := by
  rw [← checkNode_error_iff, Element.canonicalizeIn, canonicalNode_eq]
  cases checkNode e.toNode <;> simp [bind, Except.bind, pure, Except.pure, Except.map]

end Xml

/-- A tree is refused for its first forbidden character, whether it is to be written or brought into canonical
form. What has been signed is free of such characters, and so is its signature: it can be written and delivered.
-/
theorem refused_alike (e : Element) :
    (∀ f, e.toXml = .error f ↔ e.canonicalize = .error f) ∧
    (∀ f, e.toXml = .error f ↔ e.firstForbidden? = some f) ∧
    Function.Injective Signature.characterFailure ∧
    ∀ settings keys j result, (Signature.sign settings e keys).result j = .ok result →
      (∃ written, result.toXml = .ok written) ∧
      ∀ delivery compressed deflate j', ∃ answer,
        (encodeResponse result delivery compressed deflate).result j' = .ok answer := by
  refine ⟨fun f => toXml_error_iff.trans canonicalizeIn_error_iff.symm, fun f => toXml_error_iff,
    characterFailure_injective, ?_⟩
  intro settings keys j result h
  obtain ⟨_, hreturns⟩ := Recorded.result_ok_iff.mp h
  obtain ⟨id, hsigned⟩ := Signature.sign_returns hreturns
  have hw := Signature.signed_isWritable hsigned
  refine ⟨⟨_, toXml_ok_iff.mpr ⟨hw, rfl⟩⟩, ?_⟩
  intro delivery compressed deflate j'
  obtain ⟨answer, hanswer⟩ := encodedResponse_isOk hw delivery compressed deflate
  exact ⟨answer, by rw [(yields_encodeResponse result delivery compressed deflate _ j' rfl).1, hanswer]⟩

namespace Sample

def forbidden : Element :=
  ⟨"p:a", [("k", "\x02"), ("xmlns:p", "\x03")], [.text "\x01"]⟩

theorem refused_alike_forbidden :
    forbidden.toXml = .error ⟨'\x02'⟩ ∧ forbidden.canonicalize = .error ⟨'\x02'⟩ ∧
      ∃ result, (Signature.sign {} document signOn.keys).result journal = .ok result ∧
        (∃ written, result.toXml = .ok written) ∧
        ∃ answer, (encodeResponse result ⟨"https://s/acs", .post⟩ true).result journal = .ok answer := by
  obtain ⟨halike, hfirst, _, _⟩ := refused_alike forbidden
  have hwritten := (hfirst ⟨'\x02'⟩).mpr (by decide)
  refine ⟨hwritten, (halike _).mp hwritten, ?_⟩
  have hk : Signature.CanSign {} signOn.keys :=
    RsaPrivateKey.canSign_material RsaPrivateKey.sample_signsAll (by decide) {}
  have hid : Signature.referenceId document = .ok "d" := referenceId_of_ID (by decide) rfl
  obtain ⟨result, hsign, _⟩ := (Signature.sign_succeeds hk hid (by decide) journal).result_ok
  obtain ⟨_, _, _, hsigned⟩ := refused_alike document
  obtain ⟨hxml, hdelivered⟩ := hsigned {} signOn.keys journal result hsign
  exact ⟨result, hsign, hxml, hdelivered _ true _ journal⟩

end Sample

end IdentityProvider
