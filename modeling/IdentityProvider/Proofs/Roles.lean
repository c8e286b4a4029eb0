import IdentityProvider.Proofs.Answer
import IdentityProvider.Proofs.Respond
import IdentityProvider.Proofs.Saml.Content
/-! The roles of a user are joined by a separator in one attribute. Whoever cuts the value at the separator has
the roles again, if no separator is met in the value but those that join them. -/

namespace IdentityProvider

open Xml

namespace Text

/-- What lies between the occurrences of a separator, looked for from the left. An occurrence is passed over
before the next one is looked for, and `read` is the end of the piece before, backwards. -/
def piecesFrom (separator : List Char) : Nat → List Char → List Char → List (List Char)
  | _, read, [] => [read.reverse]
  | skip + 1, read, _ :: cs => piecesFrom separator skip read cs
  | 0, read, c :: cs =>
    if separator.isPrefixOf (c :: cs) then read.reverse :: piecesFrom separator (separator.length - 1) [] cs
    else piecesFrom separator 0 (c :: read) cs

def pieces (separator cs : List Char) : List (List Char) :=
  piecesFrom separator 0 [] cs

/-- In names that are joined, no separator is met but those that join them. -/
def Apart (separator : List Char) (names : List (List Char)) : Prop :=
  (∀ name ∈ names, ¬ separator <:+: name) ∧ ∀ name ∈ names.dropLast, ¬ separator <:+: name ++ separator.dropLast

instance (separator : List Char) (names : List (List Char)) : Decidable (Apart separator names) :=
  inferInstanceAs (Decidable (_ ∧ _))

variable {separator : List Char}

lemma apart_singleton {name : List Char} : Apart separator [name] ↔ ¬ separator <:+: name := by
  simp [Apart]

lemma apart_cons_cons {name next : List Char} {names : List (List Char)} :
    Apart separator (name :: next :: names) ↔
      ¬ separator <:+: name ++ separator.dropLast ∧ Apart separator (next :: names) := by
  have hname : ¬ separator <:+: name ++ separator.dropLast → ¬ separator <:+: name :=
    fun h hi => h (hi.trans (List.prefix_append _ _).isInfix)
  simp only [Apart, List.dropLast_cons_cons, List.forall_mem_cons]
  tauto

lemma apart_character {c : Char} {names : List (List Char)} : Apart [c] names ↔ ∀ name ∈ names, c ∉ name := by
  have hc : ∀ name : List Char, [c] <:+: name ↔ c ∈ name := fun name => List.singleton_infix_iff c name
  simp only [Apart, List.dropLast_singleton, List.append_nil, hc]
  exact ⟨And.left, fun h => ⟨h, fun name hm => h name (List.dropLast_subset _ hm)⟩⟩

lemma piecesFrom_skip (cs read rest : List Char) :
    piecesFrom separator cs.length read (cs ++ rest) = piecesFrom separator 0 read rest := by
  induction cs with
  | nil => rfl
  | cons c cs ih => exact ih

lemma piecesFrom_whole {cs : List Char} (h : ¬ separator <:+: cs) (read : List Char) :
    piecesFrom separator 0 read cs = [read.reverse ++ cs] := by
  induction cs generalizing read with
  | nil => rw [piecesFrom, List.append_nil]
  | cons c cs ih =>
    rw [List.infix_cons_iff, not_or] at h
    rw [piecesFrom, if_neg (by rw [List.isPrefixOf_iff_prefix]; exact h.1), ih h.2]
    simp

lemma piecesFrom_append (hs : separator ≠ []) {name : List Char} (h : ¬ separator <:+: name ++ separator.dropLast)
    (read rest : List Char) :
    piecesFrom separator 0 read (name ++ separator ++ rest) = (read.reverse ++ name) :: pieces separator rest := by
  induction name generalizing read with
  | nil =>
    obtain ⟨s, end', rfl⟩ := List.exists_cons_of_ne_nil hs
    rw [List.nil_append, List.cons_append, piecesFrom, if_pos, List.length_cons, Nat.add_sub_cancel,
      piecesFrom_skip, pieces, List.append_nil]
    rw [List.isPrefixOf_iff_prefix]
    exact List.prefix_append (s :: end') rest
  | cons c name ih =>
    rw [List.cons_append, List.infix_cons_iff, not_or] at h
    have hprefix : ¬ separator <+: c :: (name ++ separator ++ rest) := by
      intro hp
      have hlonger : c :: (name ++ separator.dropLast) <+: c :: (name ++ separator ++ rest) := by
        rw [List.append_assoc, List.prefix_cons_inj, List.prefix_append_right_inj]
        exact (List.dropLast_prefix _).trans (List.prefix_append _ _)
      refine h.1 (List.prefix_of_prefix_length_le hp hlonger ?_)
      simp only [List.length_cons, List.length_append, List.length_dropLast]
      omega
    rw [List.cons_append, List.cons_append, piecesFrom, if_neg (by rw [List.isPrefixOf_iff_prefix]; exact hprefix),
      ih h.2]
    simp

lemma exists_first (hs : separator ≠ []) {cs : List Char} (h : separator <:+: cs) :
    ∃ name rest, ¬ separator <:+: name ++ separator.dropLast ∧ cs = name ++ separator ++ rest := by
  induction cs with
  | nil => exact absurd (List.infix_nil.mp h) hs
  | cons c cs ih =>
    by_cases hp : separator <+: c :: cs
    · obtain ⟨rest, hrest⟩ := hp
      refine ⟨[], rest, ?_, hrest.symm⟩
      intro hi
      have hlength := hi.length_le
      have hpos := List.length_pos_of_ne_nil hs
      rw [List.nil_append, List.length_dropLast] at hlength
      omega
    · obtain ⟨name, rest, hname, rfl⟩ := ih ((List.infix_cons_iff.mp h).resolve_left hp)
      refine ⟨c :: name, rest, ?_, rfl⟩
      rw [List.cons_append, List.infix_cons_iff, not_or]
      refine ⟨fun hearlier => hp (hearlier.trans ?_), hname⟩
      rw [List.append_assoc, List.prefix_cons_inj, List.prefix_append_right_inj]
      exact (List.dropLast_prefix _).trans (List.prefix_append _ _)

lemma pieces_append (hs : separator ≠ []) {name : List Char} (h : ¬ separator <:+: name ++ separator.dropLast)
    (rest : List Char) : pieces separator (name ++ separator ++ rest) = name :: pieces separator rest :=
  piecesFrom_append hs h [] rest

lemma pieces_whole {cs : List Char} (h : ¬ separator <:+: cs) : pieces separator cs = [cs] :=
  piecesFrom_whole h []

lemma pieces_apart (hs : separator ≠ []) (cs : List Char) :
    ∃ name names, pieces separator cs = name :: names ∧ Apart separator (name :: names) := by
  induction hn : cs.length using Nat.strongRecOn generalizing cs with
  | _ n ih =>
    by_cases h : separator <:+: cs
    · obtain ⟨name, rest, hname, rfl⟩ := exists_first hs h
      have hshorter : rest.length < n := by
        have hpos := List.length_pos_of_ne_nil hs
        simp only [List.length_append] at hn
        omega
      obtain ⟨next, names, hpieces, hapart⟩ := ih _ hshorter rest rfl
      exact ⟨name, next :: names, by rw [pieces_append hs hname, hpieces], apart_cons_cons.mpr ⟨hname, hapart⟩⟩
    · exact ⟨cs, [], pieces_whole h, apart_singleton.mpr h⟩

lemma pieces_intercalate_iff (hs : separator ≠ []) {names : List (List Char)} (hn : names ≠ []) :
    pieces separator (separator.intercalate names) = names ↔ Apart separator names := by
  constructor
  · intro h
    obtain ⟨name, rest, hpieces, hapart⟩ := pieces_apart hs (separator.intercalate names)
    rwa [← hpieces, h] at hapart
  · intro h
    induction names with
    | nil => exact absurd rfl hn
    | cons name names ih =>
      cases names with
      | nil =>
        rw [List.intercalate_singleton]
        exact pieces_whole (apart_singleton.mp h)
      | cons next names =>
        obtain ⟨hname, hrest⟩ := apart_cons_cons.mp h
        rw [List.intercalate_cons_cons, pieces_append hs hname, ih (by simp) hrest]

example : pieces "aa".toList ("aa".toList.intercalate ["xa".toList, "b".toList]) = ["x".toList, "ab".toList] := by
  decide

section Character

variable (c : Char)

lemma piecesFrom_append_character (cs rest read : List Char) :
    piecesFrom [c] 0 read (cs ++ c :: rest) = piecesFrom [c] 0 read cs ++ pieces [c] rest := by
  induction cs generalizing read with
  | nil => simp [piecesFrom, pieces]
  | cons d cs ih =>
    rw [List.cons_append, piecesFrom, piecesFrom]
    by_cases h : c = d
    · simpa [h] using ih []
    · simpa [h] using ih (d :: read)

lemma pieces_intercalate_character {names : List (List Char)} (hn : names ≠ []) :
    pieces [c] ([c].intercalate names) = names.flatMap (pieces [c]) := by
  induction names with
  | nil => exact absurd rfl hn
  | cons name names ih =>
    cases names with
    | nil => rw [List.intercalate_singleton, List.flatMap_singleton]
    | cons next names =>
      rw [List.intercalate_cons_cons, List.append_assoc, List.singleton_append, List.flatMap_cons, ← ih (by simp)]
      exact piecesFrom_append_character c name _ []

end Character

end Text

namespace Response

def attributeValue? (tree : Element) (name : String) : Option String :=
  (tree.path? ["Assertion", "AttributeStatement"]).bind fun statement =>
    ((statement.elements.map fun a => (a.attribute? "Name",
      (a.path? ["AttributeValue"]).map Element.textContent)).lookup
      (some name)).join

lemma IsSaidIn.roles {r : Response} {tree : Element} (h : r.IsSaidIn tree) :
    attributeValue? tree "Roles" = some r.roles := by
  obtain ⟨statement, hstatement, hattributes⟩ := Option.map_eq_some_iff.mp h.attributes
  rw [attributeValue?, hstatement, Option.bind_some, hattributes]
  rfl

end Response

def readRoles (separator value : String) : List String :=
  if value = "" then [] else (Text.pieces separator.toList value.toList).map String.ofList

namespace Principal

def RolesApart (separator : String) (q : Principal) : Prop :=
  Text.Apart separator.toList (q.effectiveRoles.map String.toList)

instance (separator : String) (q : Principal) : Decidable (q.RolesApart separator) :=
  inferInstanceAs (Decidable (Text.Apart _ _))

variable {separator : String} {q : Principal}

lemma ne_empty_of_mem_effectiveRoles {role : String} (h : role ∈ q.effectiveRoles) : role ≠ "" := by
  rw [effectiveRoles, List.mem_eraseDups] at h
  simpa using (List.mem_filter.mp h).2

lemma intercalate_effectiveRoles_eq_empty_iff : separator.intercalate q.effectiveRoles = "" ↔
    q.effectiveRoles = [] := by
  cases h : q.effectiveRoles with
  | nil => simp
  | cons role roles =>
    have hrole : role ≠ "" := ne_empty_of_mem_effectiveRoles (h ▸ List.mem_cons_self)
    cases roles <;> simp [hrole]

lemma rolesApart_character {c : Char} :
    q.RolesApart (String.singleton c) ↔ ∀ role ∈ q.effectiveRoles, c ∉ role.toList := by
  rw [RolesApart, String.toList_singleton, Text.apart_character, List.forall_mem_map]

lemma readRoles_eq_iff (hs : separator ≠ "") :
    readRoles separator (separator.intercalate q.effectiveRoles) = q.effectiveRoles ↔ q.RolesApart separator := by
  have hs' : separator.toList ≠ [] := by simpa using hs
  have htexts : ∀ (pieces : List (List Char)) (names : List String),
      pieces.map String.ofList = names ↔ pieces = names.map String.toList := by
    intro pieces names
    constructor <;> rintro rfl <;> simp [Function.comp_def]
  rw [readRoles]
  split_ifs with h <;> rw [intercalate_effectiveRoles_eq_empty_iff] at h
  · rw [RolesApart, h]
    exact iff_of_true rfl (by simp [Text.Apart])
  · rw [RolesApart, ← Text.pieces_intercalate_iff hs' (by simpa using h), String.toList_intercalate, htexts]

lemma readRoles_character (c : Char) : readRoles (String.singleton c)
    ((String.singleton c).intercalate q.effectiveRoles) =
    q.effectiveRoles.flatMap (readRoles (String.singleton c)) := by
  have hread : ∀ value : String, value ≠ "" → readRoles (String.singleton c) value =
      (Text.pieces [c] value.toList).map String.ofList := by
    intro value hv
    rw [readRoles, if_neg hv, String.toList_singleton]
  by_cases h : q.effectiveRoles = []
  · rw [h]
    rfl
  · rw [hread _ (mt intercalate_effectiveRoles_eq_empty_iff.mp h), String.toList_intercalate,
      String.toList_singleton, Text.pieces_intercalate_character c (by simpa using h), List.flatMap_map,
      List.map_flatMap]
    exact List.flatMap_congr fun role hm => (hread role (ne_empty_of_mem_effectiveRoles hm)).symm

end Principal

namespace Provider

def Builds (p : Provider) (q : Principal) (tree : Element) : Prop :=
  ∃ (signOn : SignOn) (now : Instant) (request : AuthnRequest) (destination : String) (j : Journal),
    signOn.principal = q ∧ (p.issue signOn .saml20 now request destination).result j = .ok tree

variable {p : Provider} {q : Principal} {tree : Element}

lemma Builds.roles (h : p.Builds q tree) :
    Response.attributeValue? tree "Roles" = some (p.config.rolesSeparator.intercalate (p.roles q)) := by
  obtain ⟨signOn, now, request, destination, j, rfl, hissue⟩ := h
  obtain ⟨j', hreturns⟩ := Recorded.result_ok_iff.mp hissue
  cases issue_returns hreturns with
  | response => exact (Response.document_isSaidIn _ _ _ _ _).roles

/-- The roles of a user are read back from a document just if the separator is met only where it joins them, and
users of whom this holds have the same roles if they have the same value. Under a separator of one character,
what is read is read of each role alone. -/
theorem roles_read_back (p : Provider) (hr : p.roles = Principal.effectiveRoles)
    (hs : p.config.rolesSeparator ≠ "") :
    (∀ q tree, p.Builds q tree → ∃ value, Response.attributeValue? tree "Roles" = some value ∧
      (readRoles p.config.rolesSeparator value = q.effectiveRoles ↔ q.RolesApart p.config.rolesSeparator) ∧
      ∀ c, p.config.rolesSeparator = String.singleton c →
        (q.RolesApart p.config.rolesSeparator ↔ ∀ role ∈ q.effectiveRoles, c ∉ role.toList) ∧
        readRoles p.config.rolesSeparator value = q.effectiveRoles.flatMap (readRoles p.config.rolesSeparator)) ∧
    ∀ q r tree tree', p.Builds q tree → p.Builds r tree' → q.RolesApart p.config.rolesSeparator →
      r.RolesApart p.config.rolesSeparator →
      Response.attributeValue? tree "Roles" = Response.attributeValue? tree' "Roles" →
        q.effectiveRoles = r.effectiveRoles := by
  constructor
  · intro q tree h
    refine ⟨_, h.roles, ?_⟩
    rw [hr]
    refine ⟨Principal.readRoles_eq_iff hs, ?_⟩
    intro c hc
    rw [hc]
    exact ⟨Principal.rolesApart_character, Principal.readRoles_character c⟩
  · intro q r tree tree' hq hr' hqa hra hvalue
    rw [hq.roles, hr'.roles, hr, Option.some.injEq] at hvalue
    rw [← (Principal.readRoles_eq_iff hs).mpr hqa, hvalue, (Principal.readRoles_eq_iff hs).mpr hra]

end Provider

namespace Sample

lemma exists_builds {q : Principal}
    (h : ((provider.issue { signOn with principal := q } .saml20 now { id := "q", issuer := "s" }
      "https://s/acs").result journal).isOk = true) :
    ∃ tree, provider.Builds q tree := by
  cases hissue : (provider.issue { signOn with principal := q } .saml20 now { id := "q", issuer := "s" }
      "https://s/acs").result journal with
  | ok tree => exact ⟨tree, _, _, _, _, _, rfl, hissue⟩
  | error f => simp [hissue, Except.isOk, Except.toBool] at h

theorem roles_read_back_sample : ∃ tree value, provider.Builds signOn.principal tree ∧
    Response.attributeValue? tree "Roles" = some value ∧ readRoles "," value = ["x", "y"] := by
  obtain ⟨tree, htree⟩ := exists_builds (q := signOn.principal) (by decide +kernel)
  obtain ⟨value, hvalue, hread, _⟩ := (Provider.roles_read_back provider rfl (by decide)).1 _ tree htree
  exact ⟨tree, value, htree, hvalue, hread.mpr (by decide)⟩

theorem roles_run_together : ∃ tree tree', provider.Builds { roles := ["admin,root"] } tree ∧
    provider.Builds { roles := ["admin", "root"] } tree' ∧
    Response.attributeValue? tree "Roles" = Response.attributeValue? tree' "Roles" ∧
    ({ roles := ["admin,root"] } : Principal).effectiveRoles ≠
    ({ roles := ["admin", "root"] } : Principal).effectiveRoles := by
  obtain ⟨tree, htree⟩ := exists_builds (q := { roles := ["admin,root"] }) (by decide +kernel)
  obtain ⟨tree', htree'⟩ := exists_builds (q := { roles := ["admin", "root"] }) (by decide +kernel)
  refine ⟨tree, tree', htree, htree', ?_, by decide⟩
  rw [htree.roles, htree'.roles]
  decide

end Sample

end IdentityProvider
