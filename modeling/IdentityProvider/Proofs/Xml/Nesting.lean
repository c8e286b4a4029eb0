import IdentityProvider.Proofs.Outcome
import IdentityProvider.Xml.Document
/-! Markup as elements within elements. Whatever reads a document to the end of its last element has read such
markup. -/

namespace IdentityProvider.Xml

inductive Aside where
  | comment
  | instruction
  | doctype
deriving Repr, DecidableEq

def Aside.token : Aside → Token
  | comment => .comment
  | instruction => .instruction
  | doctype => .doctype

/-- What stands between two places of a document, if every element that begins there ends there. -/
inductive Piece where
  | element (name attributes : List Char) (content : List Piece)
  | childless (name attributes : List Char)
  | text (raw : List Char)
  | cdata (content : List Char)
  | aside (kind : Aside)

lemma pieces_induction {P : List Piece → Prop} (nil : P [])
    (element : ∀ name attributes content ps, P content → P ps → P (.element name attributes content :: ps))
    (childless : ∀ name attributes ps, P ps → P (.childless name attributes :: ps))
    (text : ∀ raw ps, P ps → P (.text raw :: ps)) (cdata : ∀ content ps, P ps → P (.cdata content :: ps))
    (aside : ∀ kind ps, P ps → P (.aside kind :: ps)) : ∀ ps, P ps
  | [] => nil
  | .element name attributes content :: ps =>
    element name attributes content ps (pieces_induction nil element childless text cdata aside content)
      (pieces_induction nil element childless text cdata aside ps)
  | .childless name attributes :: ps =>
    childless name attributes ps (pieces_induction nil element childless text cdata aside ps)
  | .text raw :: ps => text raw ps (pieces_induction nil element childless text cdata aside ps)
  | .cdata content :: ps => cdata content ps (pieces_induction nil element childless text cdata aside ps)
  | .aside kind :: ps => aside kind ps (pieces_induction nil element childless text cdata aside ps)

mutual

def Piece.tokens : Piece → List Token
  | .element name attributes content => .startTag name attributes :: (tokensOfPieces content ++ [.endTag name])
  | .childless name attributes => [.emptyTag name attributes]
  | .text raw => [.text raw]
  | .cdata content => [.cdata content]
  | .aside kind => [kind.token]

def tokensOfPieces : List Piece → List Token
  | [] => []
  | p :: ps => p.tokens ++ tokensOfPieces ps

end

lemma tokensOfPieces_append (ps qs : List Piece) :
    tokensOfPieces (ps ++ qs) = tokensOfPieces ps ++ tokensOfPieces qs := by
  induction ps with
  | nil => rfl
  | cons p ps ih => rw [List.cons_append, tokensOfPieces, tokensOfPieces, ih, List.append_assoc]

lemma nested_pieces (opened : List (List Char)) (ps : List Piece) (ts : List Token) :
    nested opened (tokensOfPieces ps ++ ts) = tokensOfPieces ps ++ nested opened ts := by
  induction ps using pieces_induction generalizing opened ts with
  | nil => rfl
  | element name attributes content ps ihc ih => simp [tokensOfPieces, Piece.tokens, nested, ihc, ih]
  | childless name attributes ps ih => simp [tokensOfPieces, Piece.tokens, nested, ih]
  | text raw ps ih => simp [tokensOfPieces, Piece.tokens, nested, ih]
  | cdata content ps ih => simp [tokensOfPieces, Piece.tokens, nested, ih]
  | aside kind ps ih => cases kind <;> simp [tokensOfPieces, Piece.tokens, Aside.token, nested, ih]

section AtMostOne

variable {α : Type}

lemma eq_of_toList_eq {a b : Option α} (h : a.toList = b.toList) : a = b := by
  rw [← Option.head?_toList (o := a), h, Option.head?_toList]

lemma head_of_append_eq_toList {xs ys : List α} {o : Option α} (h : xs ++ ys = o.toList) :
    xs.head?.toList = xs := by
  cases xs with
  | nil => rfl
  | cons x xs =>
    cases o with
    | none => cases h
    | some a =>
      rw [Option.toList_some, List.cons_append, List.cons.injEq, List.append_eq_nil_iff] at h
      rw [h.2.1]
      rfl

lemma not_two_eq_toList {a b : α} {xs : List α} {o : Option α} : a :: b :: xs ≠ o.toList := by
  cases o <;> simp

end AtMostOne

def depthAfter (depth : Nat) : List Token → Nat
  | [] => depth
  | .startTag _ _ :: ts => depthAfter (depth + 1) ts
  | .endTag _ :: ts => depthAfter (depth - 1) ts
  | _ :: ts => depthAfter depth ts

inductive Closes : List (List Char) → List Token → Prop
  | done : Closes [] []
  | piece {opened : List (List Char)} {ts : List Token} (p : Piece) : Closes opened ts →
      Closes opened (p.tokens ++ ts)
  | close {opened : List (List Char)} {ts : List Token} (name : List Char) : Closes opened ts →
      Closes (name :: opened) (.endTag name :: ts)

lemma Closes.split {opened : List (List Char)} {ts : List Token} {name : List Char}
    (h : Closes (name :: opened) ts) :
    ∃ ps rest, ts = tokensOfPieces ps ++ .endTag name :: rest ∧ Closes opened rest := by
  generalize hall : name :: opened = all at h
  induction h with
  | done => cases hall
  | piece p _ ih =>
    obtain ⟨ps, rest, rfl, hrest⟩ := ih hall
    exact ⟨p :: ps, rest, by simp [tokensOfPieces], hrest⟩
  | close name' hrest _ =>
    cases hall
    exact ⟨[], _, rfl, hrest⟩

lemma Closes.pieces {ts : List Token} (h : Closes [] ts) : ∃ ps, ts = tokensOfPieces ps := by
  generalize hnone : ([] : List (List Char)) = opened at h
  induction h with
  | done => exact ⟨[], rfl⟩
  | piece p _ ih =>
    obtain ⟨ps, rfl⟩ := ih hnone
    exact ⟨p :: ps, rfl⟩
  | close => cases hnone

lemma nested_closes {ts : List Token} {opened : List (List Char)} (hm : .malformed ∉ nested opened ts)
    (hd : depthAfter opened.length (nested opened ts) = 0) : Closes opened (nested opened ts) := by
  induction ts generalizing opened with
  | nil =>
    cases opened with
    | nil => exact .done
    | cons name outer => cases hd
  | cons t ts ih =>
    -- A token that neither begins nor ends an element is a piece by itself.
    have hleaf : ∀ p : Piece, p.tokens = [t] → nested opened (t :: ts) = t :: nested opened ts →
        depthAfter opened.length (t :: nested opened ts) = depthAfter opened.length (nested opened ts) →
        Closes opened (nested opened (t :: ts)) := by
      intro p hp hn hskip
      rw [hn, List.mem_cons, not_or] at hm
      rw [hn, hskip] at hd
      have hclosed := (ih hm.2 hd).piece p
      rwa [hp, List.singleton_append, ← hn] at hclosed
    cases t with
    | startTag name attributes =>
      simp only [nested, List.mem_cons, not_or] at hm
      obtain ⟨content, rest, hcontent, hrest⟩ := (ih hm.2 hd).split
      have he : nested opened (.startTag name attributes :: ts) =
          (Piece.element name attributes content).tokens ++ rest := by
        simp [nested, hcontent, Piece.tokens]
      rw [he]
      exact hrest.piece _
    | endTag name =>
      cases opened with
      | nil => simp [nested] at hm
      | cons innermost outer =>
        by_cases hn : name = innermost
        · subst hn
          simp only [nested, if_true, List.mem_cons, not_or] at hm hd ⊢
          exact (ih hm.2 hd).close name
        · simp [nested, hn] at hm
    | emptyTag name attributes => exact hleaf (.childless name attributes) rfl rfl rfl
    | text raw => exact hleaf (.text raw) rfl rfl rfl
    | cdata content => exact hleaf (.cdata content) rfl rfl rfl
    | comment => exact hleaf (.aside .comment) rfl rfl rfl
    | instruction => exact hleaf (.aside .instruction) rfl rfl rfl
    | doctype => exact hleaf (.aside .doctype) rfl rfl rfl
    | malformed => simp [nested] at hm

section Reading

variable {ε σ : Type} {step : σ → Token → Except ε σ} {depth : σ → Nat}

def CountsDepth (step : σ → Token → Except ε σ) (depth : σ → Nat) : Prop :=
  ∀ s t s', step s t = .ok s' → t ≠ .malformed ∧ depth s' = depthAfter (depth s) [t]

lemma depthAfter_cons (n : Nat) (t : Token) (ts : List Token) :
    depthAfter n (t :: ts) = depthAfter (depthAfter n [t]) ts := by
  cases t <;> rfl

lemma CountsDepth.foldlM (h : CountsDepth step depth) {ts : List Token} {s s' : σ}
    (hs : ts.foldlM step s = .ok s') :
    .malformed ∉ ts ∧ depth s' = depthAfter (depth s) ts := by
  induction ts generalizing s with
  | nil =>
    cases hs
    exact ⟨List.not_mem_nil, rfl⟩
  | cons t ts ih =>
    rw [List.foldlM_cons] at hs
    obtain ⟨s₁, hstep, hrest⟩ := bind_ok_iff.mp hs
    obtain ⟨ht, hd⟩ := h s t s₁ hstep
    obtain ⟨hts, hd'⟩ := ih hrest
    rw [depthAfter_cons, ← hd]
    exact ⟨by simp [ht.symm, hts], hd'⟩

lemma CountsDepth.pieces (h : CountsDepth step depth) {document : List Char} {s s' : σ}
    (hs : (scan document).foldlM step s = .ok s') (h₀ : depth s = 0) (h₁ : depth s' = 0) :
    ∃ ps, scan document = tokensOfPieces ps := by
  obtain ⟨hm, hd⟩ := h.foldlM hs
  rw [h₀, h₁] at hd
  exact (nested_closes hm hd.symm).pieces

end Reading

end IdentityProvider.Xml
