import IdentityProvider.Proofs.Xml.Nesting
/-! The tree of a document, put together from the pieces of its markup. -/

namespace IdentityProvider.Xml

mutual

def Piece.nodes : Piece → Except DocumentError (List Node)
  | .element name attributes content => do
    let found ← elementAttributes (readAttributes attributes)
    let children ← nodesOfPieces content
    return [.element (String.ofList name) found children]
  | .childless name attributes => do
    let found ← elementAttributes (readAttributes attributes)
    return [.element (String.ofList name) found []]
  | .text raw =>
    match unescape? raw with
    | some content => .ok [.text (String.ofList content)]
    | none => .error .badText
  | .cdata content => .ok [.text (String.ofList content)]
  | .aside _ => .ok []

def nodesOfPieces : List Piece → Except DocumentError (List Node)
  | [] => .ok []
  | p :: ps => do
    let first ← p.nodes
    let others ← nodesOfPieces ps
    return first ++ others

end

lemma length_opened_push (d : Draft) (node : Node) : (d.push node).opened.length = d.opened.length := by
  obtain ⟨opened, root⟩ := d
  cases opened <;> rfl

lemma length_opened_complete (d : Draft) (e : Element) : (d.complete e).opened.length = d.opened.length := by
  obtain ⟨opened, root⟩ := d
  cases opened <;> rfl

lemma draft_countsDepth : CountsDepth Draft.step fun d => d.opened.length := by
  intro d t d' h
  cases t with
  | startTag name attributes =>
    simp only [Draft.step] at h
    split at h
    · cases h
    · obtain ⟨found, _, hd⟩ := bind_ok_iff.mp h
      cases hd
      exact ⟨nofun, rfl⟩
  | emptyTag name attributes =>
    simp only [Draft.step] at h
    split at h
    · cases h
    · obtain ⟨found, _, hd⟩ := bind_ok_iff.mp h
      cases hd
      exact ⟨nofun, length_opened_complete d _⟩
  | endTag name =>
    obtain ⟨opened, root⟩ := d
    cases opened with
    | nil => cases h
    | cons x outer =>
      cases h
      exact ⟨nofun, length_opened_complete ⟨outer, root⟩ _⟩
  | text raw =>
    simp only [Draft.step] at h
    split at h
    · cases h
      exact ⟨nofun, length_opened_push d _⟩
    · cases h
  | cdata content =>
    cases h
    exact ⟨nofun, length_opened_push d _⟩
  | comment | instruction | doctype =>
    cases h
    exact ⟨nofun, rfl⟩
  | malformed => cases h

lemma draft_pieces (ps : List Piece) (x : Element) (outer : List Element) :
    (tokensOfPieces ps).foldlM Draft.step ⟨x :: outer, none⟩ =
      (nodesOfPieces ps).map fun ns => ⟨{ x with children := ns.reverse ++ x.children } :: outer, none⟩ := by
  induction ps using pieces_induction generalizing x outer with
  | nil => rfl
  | element name attributes content ps ihc ih =>
    simp only [tokensOfPieces, Piece.tokens, nodesOfPieces, Piece.nodes, List.cons_append, List.append_assoc,
      List.nil_append, List.foldlM_cons, List.foldlM_append, Draft.step, Option.isSome_none,
      Bool.false_eq_true, if_false]
    cases elementAttributes (readAttributes attributes) with
    | error e => rfl
    | ok found =>
      simp only [bind, Except.bind, pure, Except.pure, ihc]
      cases nodesOfPieces content with
      | error e => rfl
      | ok children =>
        simp only [Except.map, Draft.complete, Draft.push, Element.toNode, ih]
        cases nodesOfPieces ps <;> simp
  | childless name attributes ps ih =>
    simp only [tokensOfPieces, Piece.tokens, nodesOfPieces, Piece.nodes, List.cons_append, List.nil_append,
      List.foldlM_cons, Draft.step, Option.isSome_none, Bool.false_eq_true, if_false]
    cases elementAttributes (readAttributes attributes) with
    | error e => rfl
    | ok found =>
      simp only [bind, Except.bind, pure, Except.pure, Draft.complete, Draft.push, Element.toNode, ih]
      cases nodesOfPieces ps <;> simp [Except.map]
  | text raw ps ih =>
    simp only [tokensOfPieces, Piece.tokens, nodesOfPieces, Piece.nodes, List.cons_append, List.nil_append,
      List.foldlM_cons, Draft.step]
    cases unescape? raw with
    | none => rfl
    | some content =>
      simp only [bind, Except.bind, pure, Except.pure, Draft.push, ih]
      cases nodesOfPieces ps <;> simp [Except.map]
  | cdata content ps ih =>
    simp only [tokensOfPieces, Piece.tokens, nodesOfPieces, Piece.nodes, List.cons_append, List.nil_append,
      List.foldlM_cons, Draft.step, bind, Except.bind, pure, Except.pure, Draft.push, ih]
    cases nodesOfPieces ps <;> simp [Except.map]
  | aside kind ps ih =>
    have hstep : Draft.step ⟨x :: outer, none⟩ kind.token = .ok ⟨x :: outer, none⟩ := by
      cases kind <;> rfl
    simp only [tokensOfPieces, Piece.tokens, nodesOfPieces, Piece.nodes, List.cons_append, List.nil_append]
    rw [foldlM_cons_ok hstep, ih]
    cases nodesOfPieces ps <;> rfl

lemma draft_piece_before (p : Piece) : p.tokens.foldlM Draft.step ⟨[], none⟩ =
    p.nodes.map fun ns => ⟨[], (ns.filterMap Node.element?).head?⟩ := by
  cases p with
  | element name attributes content =>
    simp only [Piece.tokens, Piece.nodes, List.foldlM_cons, List.foldlM_append, List.foldlM_nil, Draft.step,
      Option.isSome_none, Bool.false_eq_true, if_false]
    cases elementAttributes (readAttributes attributes) with
    | error e => rfl
    | ok found =>
      simp only [bind, Except.bind, pure, Except.pure, draft_pieces]
      cases nodesOfPieces content with
      | error e => rfl
      | ok children => simp [Except.map, Draft.complete, Node.element?]
  | childless name attributes =>
    simp only [Piece.tokens, Piece.nodes, List.foldlM_cons, List.foldlM_nil, Draft.step, Option.isSome_none,
      Bool.false_eq_true, if_false]
    cases elementAttributes (readAttributes attributes) <;> rfl
  | text raw =>
    simp only [Piece.tokens, Piece.nodes, List.foldlM_cons, List.foldlM_nil, Draft.step]
    cases unescape? raw <;> rfl
  | cdata content => rfl
  | aside kind => cases kind <;> rfl

lemma draft_piece_after (p : Piece) (e : Element) {d : Draft} : p.tokens.foldlM Draft.step ⟨[], some e⟩ = .ok d ↔
    ∃ ns, p.nodes = .ok ns ∧ ns.filterMap Node.element? = [] ∧ d = ⟨[], some e⟩ := by
  cases p with
  | element name attributes content =>
    simp only [Piece.tokens, Piece.nodes, List.foldlM_cons, Draft.step, Option.isSome_some, if_true, bind_ok_iff]
    constructor
    · rintro ⟨_, h, _⟩
      cases h
    · rintro ⟨_, ⟨found, _, children, _, hns⟩, hnone, _⟩
      cases hns
      cases hnone
  | childless name attributes =>
    simp only [Piece.tokens, Piece.nodes, List.foldlM_cons, Draft.step, Option.isSome_some, if_true, bind_ok_iff]
    constructor
    · rintro ⟨_, h, _⟩
      cases h
    · rintro ⟨_, ⟨found, _, hns⟩, hnone, _⟩
      cases hns
      cases hnone
  | text raw =>
    simp only [Piece.tokens, Piece.nodes, List.foldlM_cons, List.foldlM_nil, Draft.step]
    cases unescape? raw <;> simp [bind, Except.bind, pure, Except.pure, Draft.push, Node.element?, eq_comm]
  | cdata content =>
    simp [Piece.tokens, Piece.nodes, Draft.step, bind, Except.bind, pure, Except.pure, Draft.push,
      Node.element?, eq_comm]
  | aside kind =>
    cases kind <;> simp [Piece.tokens, Piece.nodes, Aside.token, Draft.step, bind, Except.bind, pure,
      Except.pure, eq_comm]

lemma elements_nodes {p : Piece} {ns : List Node} (h : p.nodes = .ok ns) :
    ns.filterMap Node.element? = [] ∨ ∃ e, ns.filterMap Node.element? = [e] := by
  cases p with
  | element name attributes content =>
    obtain ⟨found, _, h⟩ := bind_ok_iff.mp h
    obtain ⟨children, _, h⟩ := bind_ok_iff.mp h
    cases h
    exact Or.inr ⟨_, rfl⟩
  | childless name attributes =>
    obtain ⟨found, _, h⟩ := bind_ok_iff.mp h
    cases h
    exact Or.inr ⟨_, rfl⟩
  | text raw =>
    simp only [Piece.nodes] at h
    split at h
    · cases h
      exact Or.inl rfl
    · cases h
  | cdata content =>
    cases h
    exact Or.inl rfl
  | aside kind =>
    cases h
    exact Or.inl rfl

lemma draft_piece {p : Piece} {root : Option Element} {d : Draft} : p.tokens.foldlM Draft.step ⟨[], root⟩ = .ok d ↔
    ∃ ns root', p.nodes = .ok ns ∧ root.toList ++ ns.filterMap Node.element? = root'.toList ∧ d = ⟨[], root'⟩ := by
  cases root with
  | none =>
    rw [draft_piece_before, map_ok_iff]
    constructor
    · rintro ⟨ns, hns, rfl⟩
      refine ⟨ns, _, hns, ?_, rfl⟩
      rcases elements_nodes hns with he | ⟨e, he⟩ <;> simp [he]
    · rintro ⟨ns, root', hns, he, rfl⟩
      rw [Option.toList_none, List.nil_append] at he
      exact ⟨ns, hns, by rw [he, Option.head?_toList]⟩
  | some e =>
    rw [draft_piece_after]
    constructor
    · rintro ⟨ns, hns, he, rfl⟩
      exact ⟨ns, some e, hns, by simp [he], rfl⟩
    · rintro ⟨ns, root', hns, he, rfl⟩
      rcases elements_nodes hns with hnone | ⟨e', hsome⟩
      · refine ⟨ns, hns, hnone, ?_⟩
        rw [hnone, List.append_nil] at he
        rw [eq_of_toList_eq he]
      · rw [hsome] at he
        exact absurd he not_two_eq_toList

lemma draft_document {ps : List Piece} {root : Option Element} {d : Draft} :
    (tokensOfPieces ps).foldlM Draft.step ⟨[], root⟩ = .ok d ↔ ∃ ns root', nodesOfPieces ps = .ok ns ∧
      root.toList ++ ns.filterMap Node.element? = root'.toList ∧ d = ⟨[], root'⟩ := by
  induction ps generalizing root with
  | nil =>
    simp only [tokensOfPieces, nodesOfPieces, List.foldlM_nil]
    constructor
    · intro h
      cases h
      exact ⟨[], root, rfl, by simp, rfl⟩
    · rintro ⟨ns, root', hns, he, rfl⟩
      cases hns
      rw [List.filterMap_nil, List.append_nil] at he
      rw [eq_of_toList_eq he]
      rfl
  | cons p ps ih =>
    rw [tokensOfPieces, List.foldlM_append, bind_ok_iff]
    constructor
    · rintro ⟨d₁, hp, hps⟩
      obtain ⟨ns, root₁, hns, he, rfl⟩ := draft_piece.mp hp
      obtain ⟨ms, root₂, hms, he', rfl⟩ := ih.mp hps
      refine ⟨ns ++ ms, root₂, ?_, ?_, rfl⟩
      · rw [nodesOfPieces, hns, hms]
        rfl
      · rw [List.filterMap_append, ← List.append_assoc, he, he']
    · rintro ⟨all, root', hall, he, rfl⟩
      obtain ⟨ns, hns, hall⟩ := bind_ok_iff.mp hall
      obtain ⟨ms, hms, hall⟩ := bind_ok_iff.mp hall
      cases hall
      rw [List.filterMap_append, ← List.append_assoc] at he
      have hone := head_of_append_eq_toList he
      exact ⟨_, draft_piece.mpr ⟨ns, _, hns, hone.symm, rfl⟩, ih.mpr ⟨ms, root', hms, by rw [hone, he], rfl⟩⟩

lemma parse_of_pieces {document : String} {ps : List Piece} (h : scan document.toList = tokensOfPieces ps)
    {e : Element} :
    parse document = .ok e ↔ ∃ ns, nodesOfPieces ps = .ok ns ∧ ns.filterMap Node.element? = [e] := by
  rw [parse, bind_ok_iff, h]
  constructor
  · rintro ⟨d, hd, hf⟩
    obtain ⟨ns, root, hns, he, rfl⟩ := draft_document.mp hd
    rw [Option.toList_none, List.nil_append] at he
    cases root with
    | none => cases hf
    | some e' =>
      cases hf
      exact ⟨ns, hns, he⟩
  · rintro ⟨ns, hns, he⟩
    exact ⟨⟨[], some e⟩, draft_document.mpr ⟨ns, some e, hns, he, rfl⟩, rfl⟩

lemma scan_of_parse {document : String} {e : Element} (h : parse document = .ok e) :
    ∃ ps, scan document.toList = tokensOfPieces ps := by
  obtain ⟨⟨opened, root⟩, hd, hf⟩ := bind_ok_iff.mp h
  cases opened with
  | cons => cases hf
  | nil => exact draft_countsDepth.pieces hd rfl rfl

theorem parse_ok_iff {document : String} {e : Element} : parse document = .ok e ↔
    ∃ ps ns, scan document.toList = tokensOfPieces ps ∧ nodesOfPieces ps = .ok ns ∧
      ns.filterMap Node.element? = [e] := by
  constructor
  · intro h
    obtain ⟨ps, hps⟩ := scan_of_parse h
    obtain ⟨ns, hns, he⟩ := (parse_of_pieces hps).mp h
    exact ⟨ps, ns, hps, hns, he⟩
  · rintro ⟨ps, ns, hps, hns, he⟩
    exact (parse_of_pieces hps).mpr ⟨ns, hns, he⟩

end IdentityProvider.Xml
