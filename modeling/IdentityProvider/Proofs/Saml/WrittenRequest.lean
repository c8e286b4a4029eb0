import IdentityProvider.Proofs.Saml.Reading
import IdentityProvider.Proofs.Xml.Lookup
import IdentityProvider.Proofs.Xml.ReadBack
import IdentityProvider.Proofs.Xml.Trimming
import IdentityProvider.Saml.Failure
import Mathlib.Data.List.Forall2
/-! Requests that were written as trees. From the text of a tree the reader makes the request that the tree
itself says, and it refuses the texts of all trees that say none. -/

namespace IdentityProvider

namespace Xml

/-! ### The markup of a tree in pieces -/

mutual

def Node.piece (e : Escapes) : Node → Piece
  | .element name attributes children =>
    .element name.toList (attributes.flatMap (renderAttribute e)) (piecesOfNodes e children)
  | .text s => .text (s.toList.flatMap e.text)

def piecesOfNodes (e : Escapes) : List Node → List Piece
  | [] => []
  | n :: ns => n.piece e :: piecesOfNodes e ns

end

def Element.tag (e : Escapes) (t : Element) : Tag :=
  ⟨t.name.toList, t.attributes.flatMap (renderAttribute e), piecesOfNodes e t.children⟩

def Element.named (t : Element) (name : String) : List Element :=
  t.elements.filter fun c => c.localName == name

section Pieces

variable (e : Escapes)

lemma tokens_piecesOfNodes (ns : List Node) : tokensOfPieces (piecesOfNodes e ns) = tokensOfNodes e ns := by
  induction ns using nodes_induction with
  | nil => rfl
  | text s ns ih => simp [piecesOfNodes, Node.piece, tokensOfPieces, Piece.tokens, tokensOfNodes, tokensOfNode, ih]
  | element name attributes children ns ihc ih =>
    simp [piecesOfNodes, Node.piece, tokensOfPieces, Piece.tokens, tokensOfNodes, tokensOfNode, ihc, ih]

lemma tags_piecesOfNodes (ns : List Node) :
    (piecesOfNodes e ns).filterMap Piece.tag? = (ns.filterMap Node.element?).map (Element.tag e) := by
  induction ns with
  | nil => rfl
  | cons n ns ih =>
    cases n with
    | element name attributes children => exact congrArg (_ :: ·) ih
    | text s => exact ih

variable (t : Element)

@[simp] lemma localName_tag : (t.tag e).localName = t.localName := by
  rw [Tag.localName, Element.tag, String.ofList_toList, Element.localName]

lemma named_tags (name : String) : ((t.elements.map fun c => c.merged.tag e).filter fun c => c.localName == name) =
    (t.named name).map fun c => c.merged.tag e := by
  rw [List.filter_map]
  congr 2
  funext c
  simp

variable {t} in
lemma scan_renderNode (h : t.IsNamed) : scan (renderNode e t.toNode) =
    tokensOfPieces [t.merged.toNode.piece e] := by
  have hone := tokens_piecesOfNodes e [t.merged.toNode]
  simp only [piecesOfNodes, tokensOfNodes, List.append_nil] at hone
  rw [← renderNode_merged, scan_render e h.merged (merged_textsApart t.children), hone]

end Pieces

lemma merged_without_elements {ns : List Node} (h : ns.filterMap Node.element? = []) :
    mergedNodes ns = joinText (String.join (ns.map Node.directText)) [] := by
  induction ns with
  | nil => rfl
  | cons n ns ih =>
    cases n with
    | element name attributes children => cases h
    | text s =>
      rw [mergedNodes, ih h, List.map_cons, String.join_cons]
      exact joinText_joinText _ _ _

def Node.withoutElements : Node → Node
  | .element name attributes children => .element name attributes (children.filter fun n => n.element?.isNone)
  | .text s => .text s

/-- The tree with nothing below the children of its root but their texts. -/
def Element.surface (t : Element) : Element :=
  { t with children := t.children.map Node.withoutElements }

section Surface

variable (t : Element)

lemma elements_surface : t.surface.elements =
    t.elements.map fun c => { c with children := c.children.filter fun n => n.element?.isNone } := by
  rw [Element.elements, Element.surface, Element.elements, List.filterMap_map, List.map_filterMap]
  congr 1
  funext n
  cases n <;> rfl

lemma named_surface (name : String) : t.surface.named name =
    (t.named name).map fun c => { c with children := c.children.filter fun n => n.element?.isNone } := by
  rw [Element.named, elements_surface, List.filter_map]
  rfl

lemma text_without_elements (ns : List Node) :
    String.join ((ns.filter fun n => n.element?.isNone).map Node.directText) =
    String.join (ns.map Node.directText) := by
  induction ns with
  | nil => rfl
  | cons n ns ih =>
    cases n with
    | element name attributes children =>
      rw [List.map_cons, String.join_cons, ← ih]
      exact (String.empty_append).symm
    | text s =>
      rw [List.map_cons, String.join_cons, ← ih]
      exact String.join_cons

end Surface

lemma Element.IsNamed.elements {t c : Element} (h : t.IsNamed) (hc : c ∈ t.elements) : c.IsNamed := by
  rw [IsNamed, all_toNode, Bool.and_eq_true] at h
  obtain ⟨n, hn, hnc⟩ := List.mem_filterMap.mp hc
  have hall := allNodes_iff.mp h.2 n hn
  cases n with
  | text s => cases hnc
  | element name attributes children =>
    cases hnc
    exact hall

end Xml

namespace AuthnRequest

open Xml

/-! ### Attributes -/

def ofValues (value? : String → Option String) : AuthnRequest where
  id := (value? "ID").getD ""
  issuer := ""
  consumerUrl := (value? "AssertionConsumerServiceURL").filter fun url => !url.isEmpty
  destination := value? "Destination"
  protocolBinding := value? "ProtocolBinding"
  issueInstant := value? "IssueInstant"
  forceAuthn := (value? "ForceAuthn").any isSet
  isPassive := (value? "IsPassive").any isSet

lemma withAttribute_ofValues (value? : String → Option String) (key value : String) :
    (ofValues value?).withAttribute key value = ofValues (Function.update value? key (some value)) := by
  unfold withAttribute
  split
  case h_8 hid hconsumer hdestination hbinding hinstant hforce hpassive =>
    simp only [ofValues, Function.update_of_ne (Ne.symm hid), Function.update_of_ne (Ne.symm hconsumer),
      Function.update_of_ne (Ne.symm hdestination), Function.update_of_ne (Ne.symm hbinding),
      Function.update_of_ne (Ne.symm hinstant), Function.update_of_ne (Ne.symm hforce),
        Function.update_of_ne (Ne.symm hpassive)]
  all_goals simp [ofValues, Function.update, Option.filter]

lemma foldl_withAttribute {attributes : List Attribute} (hn : (attributes.map Prod.fst).Nodup)
    (value? : String → Option String) : attributes.foldl (fun r a => r.withAttribute a.1 a.2) (ofValues value?) =
      ofValues fun key => (attributes.lookup key).or (value? key) := by
  induction attributes generalizing value? with
  | nil => rfl
  | cons a attributes ih =>
    rw [List.map_cons, List.nodup_cons] at hn
    rw [List.foldl_cons, withAttribute_ofValues, ih hn.2]
    congr 1
    funext key
    rw [List.lookup_cons]
    by_cases hk : key = a.1
    · subst hk
      have hnone : attributes.lookup a.1 = none := by
        rw [List.lookup_eq_none_iff]
        intro b hb
        have hne : a.1 ≠ b.1 := fun he => hn.1 (he ▸ List.mem_map_of_mem hb)
        simpa using hne
      simp [hnone]
    · have hne : (key == a.1) = false := by simpa using hk
      simp [hne, hk]

lemma ofRootAttributes_eq {attributes : List Attribute} (hn : (attributes.map Prod.fst).Nodup) :
    ofRootAttributes attributes = ofValues (List.lookup · attributes) := by
  have hf := foldl_withAttribute hn fun _ => none
  simp only [Option.or_none] at hf
  exact hf

lemma attributeValue_render (e : Escapes) {attributes : List Attribute}
    (hw : ∀ a ∈ attributes, IsTagWord a.1.toList) (hn : (attributes.map Prod.fst).Nodup) (key : String) :
    attributeValue? (readAttributes (attributes.flatMap (renderAttribute e))) key =
      .ok (attributes.lookup key) := by
  rw [readAttributes, scanAttributes_render e [] hw hn (by simp)]
  clear hw hn
  induction attributes with
  | nil => rfl
  | cons a attributes ih =>
    rw [List.map_cons, List.lookup_cons, attributeValue?, List.find?_cons]
    by_cases hk : key = a.1
    · subst hk
      simp [rawAttribute, unescape_flatMap e.value_reads]
    · have hne : (key == a.1) = false := by simpa using hk
      have hne' : ((rawAttribute e a).key == key.toList) = false := by
        simpa [rawAttribute, String.toList_inj] using Ne.symm hk
      rw [hne', hne]
      exact ih

/-! ### Children of the root -/

section Children

variable (e : Escapes)

lemma heard_written {t : Element} (h : t.elements = []) : ∃ text, heard (t.merged.tag e).content = some text ∧
    Text.trimBoth Text.isBlank text = Text.trimBoth Text.isBlank t.textContent.toList := by
  have hm : t.merged.children = joinText t.textContent [] := merged_without_elements h
  have hc : (t.merged.tag e).content = piecesOfNodes e (joinText t.textContent []) := by
    rw [Element.tag, hm]
  rw [hc]
  by_cases ht : t.textContent = ""
  · exact ⟨[], by simp [joinText, ht, piecesOfNodes, heard], by simp [ht]⟩
  · obtain ⟨inner, hinner, htrim⟩ := trimBoth_unescape (unescape_flatMap e.text_reads t.textContent.toList)
    exact ⟨inner, by simp [joinText, ht, piecesOfNodes, Node.piece, heard, hinner], htrim⟩

def heardOf (t : Element) : List Char :=
  (heard (t.merged.tag e).content).getD []

lemma areHeard_written {ts : List Element} (h : ∀ t ∈ ts, t.elements = []) :
    Draft.AreHeard (ts.map fun t => t.merged.tag e) (ts.map (heardOf e)) := by
  rw [Draft.AreHeard, List.forall₂_map_left_iff, List.forall₂_map_right_iff, List.forall₂_same]
  intro t ht
  obtain ⟨text, htext, _⟩ := heard_written e (h t ht)
  rw [htext, heardOf, htext, Option.getD_some]

lemma trim_heardOf {t : Element} (h : t.elements = []) :
    String.ofList (Text.trimBoth Text.isBlank (heardOf e t)) = Text.trim t.textContent := by
  obtain ⟨text, htext, htrim⟩ := heard_written e h
  rw [heardOf, htext, Option.getD_some, htrim, Text.trim]

lemma areFormats_written {ts : List Element} (h : ∀ t ∈ ts, t.IsNamed) :
    Draft.AreFormats (ts.map fun t => t.merged.tag e) (ts.map fun t => t.attribute? "Format") := by
  rw [Draft.AreFormats, List.forall₂_map_left_iff, List.forall₂_map_right_iff, List.forall₂_same]
  intro t ht
  have hn := h t ht
  rw [Element.IsNamed, all_toNode, Bool.and_eq_true] at hn
  exact attributeValue_render e (namedTag_words hn.1).2 (namedTag_iff.mp hn.1).2.2 "Format"

end Children

lemma readTags_readable {request : Option AuthnRequest} {issuer : Option (List Char)} {ts : List Tag}
    {texts : List (List Char)} {formats : List (Option String)}
    (ht : Draft.AreHeard (ts.filter fun t => t.localName == "Issuer") texts)
    (hf : Draft.AreFormats (ts.filter fun t => t.localName == "NameIDPolicy") formats) :
    ts.foldlM Draft.readTag ⟨request, issuer, 1, false⟩ =
      match issuer.toList ++ texts with
      | _ :: _ :: _ => .error .multipleIssuers
      | texts => .ok ⟨request.map (Draft.withFormats · formats), texts.head?, 1, false⟩ := by
  induction ts generalizing request issuer texts formats with
  | nil =>
    cases ht
    cases hf
    cases issuer <;> cases request <;> rfl
  | cons t ts ih =>
    rw [List.foldlM_cons]
    by_cases hissuer : t.localName = "Issuer"
    · rw [List.filter_cons_of_pos (by simpa using hissuer)] at ht
      rw [List.filter_cons_of_neg (by simp [hissuer])] at hf
      cases ht with
      | @cons _ text _ texts hheard ht =>
        cases issuer with
        | some first => rw [Draft.readTag, if_pos hissuer]; rfl
        | none =>
          rw [(Draft.readTag_issuer hissuer).mpr ⟨rfl, text, hheard, rfl⟩]
          exact ih ht hf
    · rw [List.filter_cons_of_neg (by simpa using hissuer)] at ht
      by_cases hpolicy : t.localName = "NameIDPolicy"
      · rw [List.filter_cons_of_pos (by simpa using hpolicy)] at hf
        cases hf with
        | @cons _ format _ formats hformat hf =>
          rw [(Draft.readTag_policy hpolicy).mpr ⟨format, hformat, rfl⟩]
          refine (ih ht hf).trans ?_
          cases request with
          | none => rfl
          | some r => simp only [Option.map_some, Draft.withFormats_cons]
      · rw [List.filter_cons_of_neg (by simpa using hpolicy)] at hf
        rw [Draft.readTag_other hissuer hpolicy]
        exact ih ht hf

/-! ### The whole request -/

def said (t issuer : Element) : AuthnRequest :=
  { ofValues t.attribute? with
    issuer := Text.trim issuer.textContent
    nameIdFormat := (t.named "NameIDPolicy").getLast?.bind fun policy => policy.attribute? "Format" }

def ofTree (t : Element) : Except RequestError AuthnRequest :=
  if t.localName ≠ "AuthnRequest" then .error (.unexpectedRoot t.localName)
  else
    match t.named "Issuer" with
    | [] => if (t.attribute? "ID").getD "" = "" then .error .missingId else .error .missingIssuer
    | [issuer] =>
      if (t.attribute? "ID").getD "" = "" then .error .missingId
      else if Text.trim issuer.textContent = "" then .error .missingIssuer
      else .ok (said t issuer)
    | _ :: _ :: _ => .error .multipleIssuers

lemma finish_eq (request : AuthnRequest) (issuer : Option (List Char)) :
    Draft.finish ⟨some request, issuer, 0, false⟩ =
    if request.id = "" then .error .missingId
    else if String.ofList (Text.trimBoth Text.isBlank (issuer.getD [])) = "" then .error .missingIssuer
    else .ok { request with issuer := String.ofList (Text.trimBoth Text.isBlank (issuer.getD [])) } := by
  simp only [Draft.finish, ne_eq, not_true_eq_false, if_false, String.isEmpty_iff]
  congr 1
  split
  · rename_i hnone
    rw [hnone]
    rfl
  · rename_i hsome
    rw [if_neg (by simpa using hsome)]

section Parsing

variable {document : String} {name attributes : List Char} {content : List Piece}
  (h : scan document.toList = tokensOfPieces [.element name attributes content])

include h

lemma parse_not_entered {error : RequestError} (he : Draft.enter {} name attributes true = .error error) :
    parse document = .error error := by
  rw [parse, h, tokensOfPieces, Piece.tokens, List.cons_append, List.foldlM_cons, Draft.step, he]
  rfl

lemma parse_entered {request : AuthnRequest}
    (he : Draft.enter {} name attributes true = .ok ⟨some request, none, 0, false⟩) :
    parse document = (content.filterMap Piece.tag?).foldlM Draft.readTag
      ⟨some request, none, 1, false⟩ >>= fun d =>
      d.step (.endTag name) >>= Draft.finish := by
  have hstart : Draft.step {} (.startTag name attributes) = .ok ⟨some request, none, 1, false⟩ := by
    rw [Draft.step, he]
    rfl
  rw [parse, h, tokensOfPieces, Piece.tokens, List.cons_append, foldlM_cons_ok hstart, List.append_assoc,
    List.foldlM_append, Draft.read_children, bind_assoc]
  congr 1
  funext d
  cases hd : d.step (.endTag name) <;> simp [tokensOfPieces, hd]

end Parsing

section Written

variable {t : Element} (e : Escapes)

lemma enter_written (hn : t.IsNamed) : Draft.enter {} t.name.toList
    (t.attributes.flatMap (renderAttribute e)) true =
    if t.localName = "AuthnRequest" then .ok ⟨some (ofValues t.attribute?), none, 0, false⟩
    else .error (.unexpectedRoot t.localName) := by
  have hroot : localPart (String.ofList t.name.toList) = t.localName := by
    rw [String.ofList_toList, Element.localName]
  rw [Element.IsNamed, all_toNode, Bool.and_eq_true] at hn
  have hfound := elementAttributes_render e (namedTag_words hn.1).2 (namedTag_iff.mp hn.1).2.2
  split_ifs with hname
  · refine (Draft.enter_root _ _ true).mpr ⟨hroot.trans hname, _, hfound, ?_⟩
    rw [ofRootAttributes_eq (namedTag_iff.mp hn.1).2.2]
    rfl
  · simp only [Draft.enter, hroot, hname, Option.isSome_none, Bool.false_eq_true, if_false, ne_eq,
      not_false_eq_true, if_true]

lemma tags_written (t : Element) :
    (piecesOfNodes e t.merged.children).filterMap Piece.tag? = t.elements.map fun c => c.merged.tag e := by
  rw [tags_piecesOfNodes, ← Element.elements, Element.elements_merged, List.map_map]
  rfl

lemma withFormats_policies (value? : String → Option String) (policies : List Element) :
    Draft.withFormats (ofValues value?) (policies.map fun c => c.attribute? "Format") =
      { ofValues value? with nameIdFormat := policies.getLast?.bind fun c => c.attribute? "Format" } := by
  rw [Draft.withFormats, List.getLast?_map]
  cases policies.getLast? <;> rfl

end Written

theorem parse_written {t : Element} (hn : t.IsNamed) (hi : ∀ c ∈ t.named "Issuer", c.elements = [])
    {written : String} (hw : t.toXml = .ok written) : parse written = ofTree t := by
  obtain ⟨_, rfl⟩ := toXml_ok_iff.mp hw
  have hscan := scan_renderNode wireEscapes hn
  rw [← String.toList_ofList (l := renderNode wireEscapes t.toNode)] at hscan
  have henter := enter_written wireEscapes hn
  by_cases hname : t.localName = "AuthnRequest"
  · rw [if_pos hname] at henter
    have hissuers := areHeard_written wireEscapes hi
    have hpolicies := areFormats_written wireEscapes fun c (hc : c ∈ t.named "NameIDPolicy") =>
      hn.elements (List.mem_of_mem_filter hc)
    rw [← named_tags] at hissuers hpolicies
    -- Now every child can be read, and only the number of issuers and their text decide.
    rw [parse_entered hscan henter, tags_written, readTags_readable hissuers hpolicies, ofTree,
      if_neg (not_not.mpr hname)]
    cases hnamed : t.named "Issuer" with
    | nil =>
      change Draft.finish ⟨some (Draft.withFormats (ofValues t.attribute?) _), none, 0, false⟩ = _
      rw [finish_eq, withFormats_policies]
      exact if_congr Iff.rfl rfl (if_pos rfl)
    | cons c cs =>
      cases cs with
      | nil =>
        change Draft.finish
          ⟨some (Draft.withFormats (ofValues t.attribute?) _), some (heardOf wireEscapes c), 0, false⟩ = _
        rw [finish_eq, withFormats_policies, Option.getD_some, trim_heardOf wireEscapes (hi c (by simp [hnamed]))]
        rfl
      | cons c' cs => rfl
  · rw [if_neg hname] at henter
    rw [parse_not_entered hscan henter, ofTree, if_pos hname]

lemma ofTree_surface (t : Element) : ofTree t.surface = ofTree t := by
  have hpolicies : (t.surface.named "NameIDPolicy").getLast?.bind (fun c => c.attribute? "Format") =
      (t.named "NameIDPolicy").getLast?.bind fun c => c.attribute? "Format" := by
    rw [named_surface, List.getLast?_map, Option.bind_map]
    rfl
  rw [ofTree, ofTree, named_surface]
  cases t.named "Issuer" with
  | nil => rfl
  | cons c cs =>
    cases cs with
    | nil =>
      have htext : Element.textContent { c with children := c.children.filter fun n => n.element?.isNone } =
        c.textContent :=
        text_without_elements c.children
      simp only [List.map_cons, List.map_nil, said, hpolicies, htext]
      rfl
    | cons c' cs => rfl

structure IsRequest (t : Element) : Prop where
  rooted : t.localName = "AuthnRequest"
  identified : ∃ id, t.attribute? "ID" = some id ∧ id ≠ ""
  issued : ∃ issuer, t.named "Issuer" = [issuer] ∧ issuer.textContent.toList.all Text.isBlank = false

structure IsSaidIn (r : AuthnRequest) (t : Element) : Prop where
  id : t.attribute? "ID" = some r.id
  issuer : ∃ issuer, t.named "Issuer" = [issuer] ∧ r.issuer = Text.trim issuer.textContent
  consumerUrl : r.consumerUrl = (t.attribute? "AssertionConsumerServiceURL").filter fun url => url ≠ ""
  destination : r.destination = t.attribute? "Destination"
  protocolBinding : r.protocolBinding = t.attribute? "ProtocolBinding"
  issueInstant : r.issueInstant = t.attribute? "IssueInstant"
  forceAuthn : r.forceAuthn = true ↔ t.attribute? "ForceAuthn" = some "true" ∨ t.attribute? "ForceAuthn" = some "1"
  isPassive : r.isPassive = true ↔ t.attribute? "IsPassive" = some "true" ∨ t.attribute? "IsPassive" = some "1"
  nameIdFormat : r.nameIdFormat = (t.named "NameIDPolicy").getLast?.bind fun policy => policy.attribute? "Format"

lemma trim_eq_empty_iff {s : String} : Text.trim s = "" ↔ s.toList.all Text.isBlank = true := by
  rw [← Text.trimBoth_eq_nil_iff, Text.trim, ← String.toList_inj, String.toList_ofList]
  rfl

lemma any_isSet_iff {o : Option String} : o.any isSet = true ↔ o = some "true" ∨ o = some "1" := by
  cases o <;> simp [isSet]

lemma filter_nonempty (o : Option String) : (o.filter fun url => !url.isEmpty) = o.filter fun url => url ≠ "" := by
  congr 1
  funext url
  by_cases h : url = "" <;> simp [h]

lemma isSaidIn_iff {t c : Element} {r : AuthnRequest} (hid : (t.attribute? "ID").getD "" ≠ "")
    (hnamed : t.named "Issuer" = [c]) : r.IsSaidIn t ↔ r = said t c := by
  have hfound : t.attribute? "ID" = some ((t.attribute? "ID").getD "") := by
    cases hvalue : t.attribute? "ID" with
    | none => simp [hvalue] at hid
    | some id => rfl
  constructor
  · rintro ⟨hid', ⟨c', hc', hissuer⟩, hconsumer, hdestination, hbinding, hinstant, hforce, hpassive, hformat⟩
    obtain rfl : c = c' := by simpa [hnamed] using hc'
    rw [← any_isSet_iff, ← Bool.eq_iff_iff] at hforce hpassive
    cases r
    dsimp only at *
    subst hissuer hconsumer hdestination hbinding hinstant hforce hpassive hformat
    rw [said, ofValues, hid', Option.getD_some, filter_nonempty]
  · rintro rfl
    exact ⟨hfound, ⟨c, hnamed, rfl⟩, filter_nonempty _, rfl, rfl, rfl, any_isSet_iff, any_isSet_iff, rfl⟩

lemma isRequest_iff {t : Element} : IsRequest t ↔ t.localName = "AuthnRequest" ∧ (t.attribute? "ID").getD "" ≠ "" ∧
    ∃ c, t.named "Issuer" = [c] ∧ Text.trim c.textContent ≠ "" := by
  have hid : (∃ id, t.attribute? "ID" = some id ∧ id ≠ "") ↔ (t.attribute? "ID").getD "" ≠ "" := by
    cases t.attribute? "ID" <;> simp
  simp only [ne_eq, trim_eq_empty_iff, Bool.not_eq_true] at hid ⊢
  rw [← hid]
  exact ⟨fun h => ⟨h.rooted, h.identified, h.issued⟩, fun h => ⟨h.1, h.2.1, h.2.2⟩⟩

lemma ofTree_ok_iff {t : Element} {r : AuthnRequest} : ofTree t = .ok r ↔ IsRequest t ∧ r.IsSaidIn t := by
  rw [isRequest_iff, ofTree]
  by_cases hname : t.localName = "AuthnRequest"
  · by_cases hid : (t.attribute? "ID").getD "" = ""
    · rw [if_neg (not_not.mpr hname)]
      split <;> simp [hid]
    · rw [if_neg (not_not.mpr hname)]
      rcases hnamed : t.named "Issuer" with _ | ⟨c, _ | ⟨c', cs⟩⟩
      · simp [hid]
      · rw [isSaidIn_iff hid hnamed]
        by_cases hsaid : Text.trim c.textContent = ""
        · simp [hid, hsaid]
        · dsimp only
          rw [if_neg hid, if_neg hsaid, Except.ok.injEq]
          exact ⟨fun h => ⟨⟨hname, hid, c, rfl, hsaid⟩, h.symm⟩, fun h => h.2.symm⟩
      · simp
  · simp [hname]

/-! ### Reading what was written -/

def read (document : String) : Except Failure AuthnRequest :=
  (parse document).mapError fun e => .malformedRequest e.message

/-- The text of a tree, if no element is inside an issuer, is read just if the tree is a request, as what the
tree says of it. Trees that differ below the children of the root alone are read alike. -/
theorem written_request_reads {t : Element} (hn : t.IsNamed) (hc : t.HasXmlContent)
    (hi : ∀ c ∈ t.named "Issuer", c.elements = []) :
    ∃ written, t.toXml = .ok written ∧ ((∃ r, read written = .ok r) ↔ IsRequest t) ∧
      (¬ IsRequest t → ∃ detail, read written = .error (.malformedRequest detail)) ∧
      (∀ r, read written = .ok r → r.IsSaidIn t) ∧
      ∀ (t' : Element) (written' : String), t'.IsNamed → (∀ c ∈ t'.named "Issuer", c.elements = []) →
        t'.surface = t.surface → t'.toXml = .ok written' → read written' = read written := by
  obtain ⟨written, hw⟩ := (toXml_reads_back hn).1.mpr hc
  have hread : read written = (ofTree t).mapError fun e => .malformedRequest e.message := by
    rw [read, parse_written hn hi hw]
  have hok : ∀ r, read written = .ok r ↔ IsRequest t ∧ r.IsSaidIn t := by
    intro r
    rw [hread, mapError_ok_iff, ofTree_ok_iff]
  refine ⟨written, hw, ?_, ?_, ?_, ?_⟩
  · constructor
    · rintro ⟨r, hr⟩
      exact ((hok r).mp hr).1
    · intro h
      obtain ⟨_, hid, c, hnamed, _⟩ := isRequest_iff.mp h
      exact ⟨said t c, (hok _).mpr ⟨h, (isSaidIn_iff hid hnamed).mpr rfl⟩⟩
  · intro h
    cases hr : read written with
    | ok r => exact absurd ((hok r).mp hr).1 h
    | error f =>
      rw [hread, mapError_error_iff] at hr
      obtain ⟨e, _, rfl⟩ := hr
      exact ⟨e.message, rfl⟩
  · intro r hr
    exact ((hok r).mp hr).2
  · intro t' written' hn' hi' hsurface hw'
    rw [hread, read, parse_written hn' hi' hw', ← ofTree_surface t', hsurface, ofTree_surface]

def askingTree : Element where
  name := "samlp:AuthnRequest"
  attributes := [("IsPassive", "1"), ("ForceAuthn", "True"), ("ID", "q<"), ("AssertionConsumerServiceURL", "")]
  children := [.text "x", .element "Extensions" [] [.element "Issuer" [] [.text "t"]],
    .element "saml:Issuer" [] [.text " ", .text "s & ", .text "s\n"], .element "NameIDPolicy" [("Format", "u")] [],
    .element "samlp:NameIDPolicy" [] []]

theorem written_request_reads_asking : askingTree.IsNamed ∧ askingTree.HasXmlContent ∧
    (∀ c ∈ askingTree.named "Issuer", c.elements = []) ∧ ∃ written r, askingTree.toXml = .ok written ∧
      read written = .ok r ∧ r = { id := "q<", issuer := "s & s", isPassive := true } := by
  have hn : askingTree.IsNamed := by decide +kernel
  have hc : askingTree.HasXmlContent := by decide +kernel
  have hnamed : askingTree.named "Issuer" = [⟨"saml:Issuer", [], [.text " ", .text "s & ", .text "s\n"]⟩] := rfl
  have hi : ∀ c ∈ askingTree.named "Issuer", c.elements = [] := by
    rw [hnamed]
    intro c hc
    rw [List.mem_singleton] at hc
    rw [hc]
    rfl
  obtain ⟨written, hw, hok, _, hsaid, _⟩ := written_request_reads hn hc hi
  have hrequest : IsRequest askingTree := ⟨rfl, ⟨"q<", rfl, by decide⟩, _, hnamed, by decide +kernel⟩
  obtain ⟨r, hr⟩ := hok.mpr hrequest
  refine ⟨hn, hc, hi, written, r, hw, hr, ?_⟩
  rw [(isSaidIn_iff (by decide) hnamed).mp (hsaid r hr)]
  decide +kernel

end AuthnRequest

end IdentityProvider
