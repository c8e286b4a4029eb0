import IdentityProvider.Proofs.Saml.Reading
import IdentityProvider.Proofs.Xml.Doctype
/-! Reading does not amplify. What is read of a document is no larger than the document, as a tree and as a
request, and document types with their entities have no part in it. -/

namespace IdentityProvider

open Xml
open String (utf8Len utf8Len_cons utf8Len_append)

lemma utf8Len_trimBoth (drop : Char → Bool) (cs : List Char) : utf8Len (Text.trimBoth drop cs) ≤ utf8Len cs := by
  have hcs := congrArg utf8Len (Text.leading_trimBoth_trailing drop cs)
  rw [utf8Len_append, utf8Len_append] at hcs
  omega

namespace AuthnRequest

def optionalBytes (text : Option String) : Nat :=
  text.elim 0 String.utf8ByteSize

def byteSize (r : AuthnRequest) : Nat :=
  r.id.utf8ByteSize + r.issuer.utf8ByteSize + optionalBytes r.consumerUrl + optionalBytes r.destination +
    optionalBytes r.protocolBinding + optionalBytes r.issueInstant + optionalBytes r.nameIdFormat

lemma byteSize_withAttribute (r : AuthnRequest) (key value : String) :
    (r.withAttribute key value).byteSize ≤ r.byteSize + value.utf8ByteSize := by
  unfold withAttribute
  split
  case h_2 =>
    split_ifs <;> simp only [byteSize, optionalBytes, Option.elim_none, Option.elim_some] <;> omega
  all_goals
    simp only [byteSize, optionalBytes, Option.elim_some]
    omega

lemma byteSize_ofRootAttributes (attributes : List Attribute) :
    (ofRootAttributes attributes).byteSize ≤ attributeBytes attributes := by
  have hfold : ∀ r : AuthnRequest, (attributes.foldl (fun r a => r.withAttribute a.1 a.2) r).byteSize ≤
      r.byteSize + attributeBytes attributes := by
    intro r
    induction attributes generalizing r with
    | nil => exact Nat.le_add_right _ _
    | cons a attributes ih =>
      have hfirst := byteSize_withAttribute r a.1 a.2
      have hothers := ih (r.withAttribute a.1 a.2)
      rw [List.foldl_cons, attributeBytes_cons]
      omega
  have hempty : byteSize ⟨"", "", none, none, none, none, false, false, none⟩ = 0 := rfl
  have hall := hfold ⟨"", "", none, none, none, none, false, false, none⟩
  rwa [hempty, Nat.zero_add] at hall

lemma optionalBytes_attributeValue {raw : List Char} {key : String} {value : Option String}
    (h : attributeValue? (readAttributes raw) key = .ok value) : optionalBytes value ≤ utf8Len raw := by
  rw [attributeValue?] at h
  split at h
  · rename_i a ha
    split at h
    · rename_i text htext
      cases h
      have hvalue := utf8Len_unescape htext
      have hfound := le_rawBytes_of_mem (List.mem_of_find?_eq_some ha)
      have hall := rawBytes_scanAttributes [] raw
      rw [optionalBytes, Option.elim_some, String.utf8ByteSize_ofList]
      exact hvalue.trans (hfound.trans hall)
    · cases h
  · split_ifs at h
    cases h
    exact Nat.zero_le _

namespace Draft

def byteSize (d : Draft) : Nat :=
  d.request.elim 0 AuthnRequest.byteSize + utf8Len (d.issuer.getD [])

lemma byteSize_enter {d e : Draft} {name attributes : List Char} {hasContent : Bool}
    (h : d.enter name attributes hasContent = .ok e) : e.byteSize ≤ d.byteSize + utf8Len attributes := by
  obtain ⟨request, issuer, depth, inIssuer⟩ := d
  simp only [enter] at h
  split at h
  · -- The root, before which there is no request.
    split_ifs at h with hnone hname
    split at h
    · rename_i found hfound
      cases h
      have hroot := (byteSize_ofRootAttributes found).trans (attributeBytes_le hfound)
      simp only [byteSize, Option.elim_some]
      omega
    · cases h
  · split_ifs at h with hissuer hsome hpolicy
    · cases h
      exact Nat.le_trans (Nat.add_le_add_left (Nat.zero_le _) _) (Nat.le_add_right _ _)
    · split at h
      · rename_i format hformat
        cases h
        have hvalue := optionalBytes_attributeValue hformat
        cases request with
        | none => exact Nat.le_add_right _ _
        | some r =>
          simp only [byteSize, AuthnRequest.byteSize, Option.map_some, Option.elim_some]
          omega
      · cases h
    · cases h
      exact Nat.le_add_right _ _
  · cases h
    exact Nat.le_add_right _ _

lemma byteSize_append (d : Draft) (text : List Char) : (d.append text).byteSize = d.byteSize + utf8Len text := by
  rw [append, byteSize, byteSize, Option.getD_some, utf8Len_append, Nat.add_assoc]

lemma pays_bytes : Pays step byteSize Token.bytes := by
  intro d t d' h
  cases t with
  | startTag name attributes =>
    obtain ⟨e, he, hd⟩ := bind_ok_iff.mp h
    cases hd
    have hentered := byteSize_enter he
    simp only [byteSize, Token.bytes] at hentered ⊢
    omega
  | emptyTag name attributes =>
    have hentered := byteSize_enter h
    simp only [Token.bytes]
    omega
  | endTag name =>
    simp only [step] at h
    split_ifs at h
    cases h
    exact Nat.le_add_right _ _
  | text raw =>
    simp only [step] at h
    split_ifs at h
    · split at h
      · rename_i text htext
        cases h
        rw [byteSize_append]
        exact Nat.add_le_add_left ((utf8Len_unescape htext).trans (utf8Len_trimBoth _ raw)) _
      · cases h
    · cases h
      exact Nat.le_add_right _ _
  | cdata content =>
    cases h
    split_ifs
    · rw [byteSize_append, Token.bytes]
    · exact Nat.le_add_right _ _
  | comment | instruction | doctype =>
    cases h
    exact Nat.le_add_right _ _
  | malformed => cases h

lemma byteSize_finish {d : Draft} {r : AuthnRequest} (h : d.finish = .ok r) : r.byteSize ≤ d.byteSize := by
  obtain ⟨request, issuer, depth, inIssuer⟩ := d
  rw [finish] at h
  split_ifs at h
  split at h
  · cases h
  · rename_i r' hr
    split_ifs at h
    split at h
    · cases h
    · rename_i issuer' hne
      cases h
      dsimp only at hr
      subst hr
      have htrimmed := utf8Len_trimBoth Text.isBlank (issuer.getD [])
      simp only [byteSize, AuthnRequest.byteSize, Option.elim_some, String.utf8ByteSize_ofList]
      omega

end Draft

theorem byteSize_le_of_parse {document : String} {r : AuthnRequest} (h : parse document = .ok r) :
    r.byteSize ≤ document.utf8ByteSize := by
  obtain ⟨ps, hps⟩ := scan_of_parse h
  obtain ⟨d, hd, hf⟩ := bind_ok_iff.mp h
  have hrun := Draft.pays_bytes.foldlM hd
  have hempty : Draft.byteSize {} = 0 := rfl
  rw [hempty, Nat.zero_add] at hrun
  rw [← String.utf8Len_toList]
  exact (Draft.byteSize_finish hf).trans (hrun.trans (charge_le utf8Len_append Token.Spells.bytes_le hps))

theorem parse_undeclared (document : String) : parse (undeclared document) = parse document := by
  rw [parse, parse, foldlM_undeclared fun _ => rfl]

end AuthnRequest

/-- What is read of a document is no larger than the document. The bytes of the names, keys, values and texts of
a tree are at most those of the document, its nodes at most the characters; and the bytes of the texts of a
request are at most those of the document. No declaration can add to this: with an empty comment in the place of
each document type, the document is not longer, has the same markup otherwise, and is read as it was, as a tree
as well as as a request. -/
theorem parse_never_amplifies (document : String) :
    (∀ e, Xml.parse document = .ok e → e.byteSize ≤ document.utf8ByteSize ∧ e.nodeCount ≤ document.length) ∧
    (∀ r, AuthnRequest.parse document = .ok r → r.byteSize ≤ document.utf8ByteSize) ∧
    (undeclared document).utf8ByteSize ≤ document.utf8ByteSize ∧ .doctype ∉ scan (undeclared document).toList ∧
      scan (undeclared document).toList = (scan document.toList).map Token.undeclared ∧
      Xml.parse (undeclared document) = Xml.parse document ∧
      AuthnRequest.parse (undeclared document) = AuthnRequest.parse document :=
  ⟨fun _ he => ⟨Xml.byteSize_le_of_parse he, nodeCount_le_of_parse he⟩,
    fun _ hr => AuthnRequest.byteSize_le_of_parse hr, utf8ByteSize_undeclared document,
    doctype_not_mem_undeclared document, scan_undeclared document,
    Xml.parse_undeclared document, AuthnRequest.parse_undeclared document⟩

def declaring : String :=
  "<!DOCTYPE r [<!ENTITY a \"aaaa\">]>" ++
    "<AuthnRequest ID=\"q\" Destination=\"&#x20AC;\"><Issuer>s</Issuer></AuthnRequest>"

theorem parse_never_amplifies_declaring : .doctype ∈ scan declaring.toList ∧
    ∃ e r, Xml.parse declaring = .ok e ∧ AuthnRequest.parse declaring = .ok r ∧ r.destination = some "€" ∧
      e.byteSize ≤ declaring.utf8ByteSize ∧ e.nodeCount ≤ declaring.length ∧ r.byteSize ≤ declaring.utf8ByteSize ∧
      Xml.parse (undeclared declaring) = .ok e ∧ AuthnRequest.parse (undeclared declaring) = .ok r := by
  obtain ⟨htree, hrequest, _, _, _, hsame, hsame'⟩ := parse_never_amplifies declaring
  have hr : AuthnRequest.parse declaring = .ok { id := "q", issuer := "s", destination := some "€" } := by
    decide +kernel
  have hok : (Xml.parse declaring).toBool = true := by decide +kernel
  refine ⟨by decide +kernel, ?_⟩
  cases he : Xml.parse declaring with
  | error e =>
    rw [he] at hok
    cases hok
  | ok e =>
    obtain ⟨hbytes, hnodes⟩ := htree e he
    exact ⟨e, _, rfl, hr, rfl, hbytes, hnodes, hrequest _ hr, hsame.trans he, hsame'.trans hr⟩

example : (Xml.parse "<!DOCTYPE r [<!ENTITY a \"aaaa\">]><r>&a;</r>").map Element.byteSize = .error .badText := by
  decide +kernel

end IdentityProvider
