import Mathlib.Data.List.DropRight
import IdentityProvider.Proofs.Xml.Trimming
import IdentityProvider.Provider
import IdentityProvider.Settings
/-! Where the origin of a provider is set. A settings file is taken at its word; an environment variable loses
the blanks around it and the slashes at its end. -/

namespace IdentityProvider

open Text

section Ends

variable {p : Char → Bool} {cs : List Char}

lemma dropWhile_eq_self_iff_head : cs.dropWhile p = cs ↔ cs.head?.any p = false := by
  cases cs with
  | nil => simp
  | cons c cs => simp [List.dropWhile_eq_self_iff]

lemma rdropWhile_eq_self_iff_last : cs.rdropWhile p = cs ↔ cs.getLast?.any p = false := by
  rw [List.rdropWhile, List.reverse_eq_iff, dropWhile_eq_self_iff_head, List.head?_reverse]

end Ends

def IsTidyOrigin (o : String) : Prop :=
  o.toList.head?.any isBlank = false ∧ o.toList.getLast?.any isBlank = false ∧
    o.toList.getLast?.any (· == '/') = false

instance (o : String) : Decidable (IsTidyOrigin o) :=
  inferInstanceAs (Decidable (_ ∧ _))

namespace Config

lemma toList_normalizeOrigin (o : String) :
    (normalizeOrigin o).toList = ((o.toList.dropWhile isBlank).rdropWhile isBlank).rdropWhile (· == '/') := by
  rw [normalizeOrigin, String.toList_ofList]
  rfl

lemma normalizeOrigin_eq_self_iff {o : String} : normalizeOrigin o = o ↔ IsTidyOrigin o := by
  rw [IsTidyOrigin, ← dropWhile_eq_self_iff_head, ← rdropWhile_eq_self_iff_last, ← rdropWhile_eq_self_iff_last,
    ← String.toList_inj, toList_normalizeOrigin]
  constructor
  · intro h
    -- Each of the three steps could only shorten the text.
    have hslash := (List.rdropWhile_prefix (· == '/') ((o.toList.dropWhile isBlank).rdropWhile isBlank)).sublist
    have hafter := (List.rdropWhile_prefix isBlank (o.toList.dropWhile isBlank)).sublist
    have hbefore := (List.dropWhile_suffix isBlank (l := o.toList)).sublist
    rw [h] at hslash
    have hb := hbefore.antisymm (hslash.trans hafter)
    rw [hb] at hafter hslash h
    have ha := hafter.antisymm hslash
    rw [ha] at h
    exact ⟨hb, ha, h⟩
  · rintro ⟨hbefore, hafter, hslash⟩
    rw [hbefore, hafter, hslash]

lemma normalizeOrigin_eq_empty {o : String} (h : normalizeOrigin o = "") {c : Char} (hc : c ∈ o.toList) :
    isBlank c = true ∨ c = '/' := by
  rw [← String.toList_inj, toList_normalizeOrigin, String.toList_empty, List.rdropWhile_eq_nil_iff] at h
  rw [← leading_trimBoth_trailing isBlank o.toList, List.mem_append, List.mem_append] at hc
  rcases hc with (hc | hc) | hc
  · exact Or.inl (List.all_eq_true.mp (all_leading _ _) c hc)
  · exact Or.inr (beq_iff_eq.mp (h c hc))
  · exact Or.inl (List.all_eq_true.mp (all_trailing _ _) c hc)

def settingOrigin (c : Config) (o : String) : Config :=
  { c with origin := some o }

def overridingOrigin (c : Config) (o : String) : Config :=
  { c with origin := (some (normalizeOrigin o)).filter (· ≠ "") }

def originVariable (o name : String) : Option String :=
  if name = "SSO_ORIGIN" then some o else none

lemma override_other {α : Type} {key : String} (h : key ≠ "SSO_ORIGIN") (o : String) (default : α)
    (read : String → String → Except Failure α) : override (originVariable o) key default read = .ok default := by
  rw [override, originVariable, if_neg h]

lemma withOverrides_originVariable (c : Config) (o : String) :
    c.withOverrides (originVariable o) = .ok (c.overridingOrigin o) := by
  have horigin : override (originVariable o) "SSO_ORIGIN" c.origin (fun _ value =>
      .ok ((some (normalizeOrigin value)).filter (· ≠ ""))) = .ok
        ((some (normalizeOrigin o)).filter (· ≠ "")) := by
    rw [override, originVariable, if_pos rfl]
  rw [withOverrides, horigin, override_other (by decide), override_other (by decide), override_other (by decide),
    overridingOrigin]
  simp only [bind, Except.bind, pure, Except.pure]

end Config

namespace Origins

variable {c : Config} {o host : String}

lemma ofHost_set (h : o ≠ "") : ofHost host { c with origin := some o } = ⟨o, o⟩ := by
  simp [ofHost, Option.filter, h]

lemma scheme_head (host : List Char) : 'h' ∈ (scheme host).toList := by
  unfold scheme
  extract_lets name
  split <;> decide

lemma ofHost_unset (host : String) (h : c.origin = none) :
    'h' ∈ (ofHost host c).frontend.toList ∧ 'h' ∈ (ofHost host c).backend.toList := by
  simp only [ofHost, h, Option.filter_none]
  split
  · decide
  · simp only [String.toList_append, List.mem_append]
    exact ⟨Or.inl (scheme_head _), Or.inl (scheme_head _)⟩

lemma ofHost_tidy (h : IsTidyOrigin o) : ofHost host (c.settingOrigin o) = ofHost host (c.overridingOrigin o) := by
  rw [Config.settingOrigin, Config.overridingOrigin, Config.normalizeOrigin_eq_self_iff.mpr h]
  by_cases ho : o = ""
  · rw [ho]
    rfl
  · rw [Option.filter_some_pos (by simpa using ho)]

lemma ofHost_untidy (h : ¬ IsTidyOrigin o) :
    (ofHost host (c.settingOrigin o)).frontend ≠ (ofHost host (c.overridingOrigin o)).frontend ∧
      (ofHost host (c.settingOrigin o)).backend ≠ (ofHost host (c.overridingOrigin o)).backend := by
  have hne : o ≠ Config.normalizeOrigin o := fun he => h (Config.normalizeOrigin_eq_self_iff.mp he.symm)
  have ho : o ≠ "" := by
    rintro rfl
    exact h (by decide)
  rw [Config.settingOrigin, ofHost_set ho]
  by_cases hn : Config.normalizeOrigin o = ""
  · have hunset : (c.overridingOrigin o).origin = none := by
      rw [Config.overridingOrigin, hn]
      rfl
    have hh : 'h' ∉ o.toList := by
      intro hmem
      rcases Config.normalizeOrigin_eq_empty hn hmem with hblank | hslash
      · exact absurd hblank (by decide)
      · exact absurd hslash (by decide)
    obtain ⟨hfrontend, hbackend⟩ := ofHost_unset host hunset
    constructor
    · intro he
      have ho : o = (ofHost host (c.overridingOrigin o)).frontend := he
      exact hh (ho ▸ hfrontend)
    · intro he
      have ho : o = (ofHost host (c.overridingOrigin o)).backend := he
      exact hh (ho ▸ hbackend)
  · rw [Config.overridingOrigin, Option.filter_some_pos (by simpa using hn), ofHost_set hn]
    exact ⟨hne, hne⟩

lemma frontend_eq_iff :
    (ofHost host (c.settingOrigin o)).frontend = (ofHost host (c.overridingOrigin o)).frontend ↔
      IsTidyOrigin o := by
  constructor
  · intro h
    by_contra ho
    exact (ofHost_untidy ho).1 h
  · intro ho
    rw [ofHost_tidy ho]

lemma backend_eq_iff :
    (ofHost host (c.settingOrigin o)).backend = (ofHost host (c.overridingOrigin o)).backend ↔ IsTidyOrigin o := by
  constructor
  · intro h
    by_contra ho
    exact (ofHost_untidy ho).2 h
  · intro ho
    rw [ofHost_tidy ho]

end Origins

lemma Metadata.location_frontend {app : Application} {a b : Origins} (h : location app a = location app b) :
    a.frontend = b.frontend := by
  simpa [location, String.append_assoc] using h

lemma Metadata.document_backend {certificate : String} {app : Application} {a b : Origins}
    (h : document certificate app a = document certificate app b) : a.backend = b.backend := by
  have hattributes := congrArg Xml.Element.attributes h
  simpa [document, Xml.Element.ofElements] using hattributes

namespace Provider

lemma respond_origin {c : Config} {x y : Option String} {deflate : Bytes → Bytes} {signOn : SignOn}
    {version : ProtocolVersion} {now : Instant} {encoded : String}
    (h : Origins.ofHost signOn.host { c with origin := x } = Origins.ofHost signOn.host { c with origin := y }) :
    (ofConfig { c with origin := x } deflate).respond signOn version now encoded =
      (ofConfig { c with origin := y } deflate).respond signOn version now encoded := by
  have hissue : ∀ request destination,
      (ofConfig { c with origin := x } deflate).issue signOn version now request destination =
        (ofConfig { c with origin := y } deflate).issue signOn version now request destination := by
    intro request destination
    cases version <;> simp only [issue, ofConfig, h]
  unfold respond
  simp only [hissue]
  rfl

end Provider

def Settings.configuration? (file : String) (environment : String → Option String) : Option Config := do
  let settings ← parse? file
  (settings.provider.withOverrides environment).toOption

section Places

open Config Metadata

/-- The same origin means the same in a settings file and in the environment if it is tidy, and otherwise for no
host. -/
theorem configured_origin {named plain : String} {format format' : OutputFormat} {c : Config} {o : String}
    (hnamed : Settings.parse? named = some ⟨format, { c with origin := some o }⟩)
    (hplain : Settings.parse? plain = some ⟨format', { c with origin := none }⟩) :
    ∃ a b, Settings.configuration? named (fun _ => none) = some a ∧
      Settings.configuration? plain (originVariable o) = some b ∧
      (∀ host, Origins.ofHost host a = Origins.ofHost host b ↔ IsTidyOrigin o) ∧
      (∀ host, (Origins.ofHost host a).backend = (Origins.ofHost host b).backend ↔ IsTidyOrigin o) ∧
      (∀ host app, location app (Origins.ofHost host a) = location app (Origins.ofHost host b) ↔ IsTidyOrigin o) ∧
      (∀ host app certificate, document certificate app (Origins.ofHost host a) =
        document certificate app (Origins.ofHost host b) ↔ IsTidyOrigin o) ∧
      (IsTidyOrigin o →
        (∀ app pem host, (Provider.ofConfig a).metadata app pem host =
          (Provider.ofConfig b).metadata app pem host) ∧
        ∀ deflate signOn version now encoded, (Provider.ofConfig a deflate).respond signOn version now encoded =
          (Provider.ofConfig b deflate).respond signOn version now encoded) := by
  refine ⟨c.settingOrigin o, c.overridingOrigin o, ?_, ?_, ?_, ?_, ?_, ?_, fun h => ⟨?_, ?_⟩⟩
  · rw [Settings.configuration?, hnamed]
    rfl
  · simp only [Settings.configuration?, hplain, bind, Option.bind, withOverrides_originVariable]
    rfl
  · intro host
    exact ⟨fun h => Origins.frontend_eq_iff.mp (congrArg Origins.frontend h), Origins.ofHost_tidy⟩
  · intro host
    exact Origins.backend_eq_iff
  · intro host app
    exact ⟨fun h => Origins.frontend_eq_iff.mp (location_frontend h), fun h => by rw [Origins.ofHost_tidy h]⟩
  · intro host app certificate
    exact ⟨fun h => Origins.backend_eq_iff.mp (document_backend h), fun h => by rw [Origins.ofHost_tidy h]⟩
  · intro app pem host
    rw [Provider.metadata, Provider.metadata]
    exact congrArg (Metadata.write app pem) (Origins.ofHost_tidy h)
  · intro deflate signOn version now encoded
    exact Provider.respond_origin (Origins.ofHost_tidy h)

theorem configured_origin_slash :
    (∃ a b, Settings.configuration? "[idp]\norigin = \"https://sso.example.com/\"\n" (fun _ => none) = some a ∧
      Settings.configuration? "" (originVariable "https://sso.example.com/") = some b ∧
      ∀ host, (Origins.ofHost host a).backend ≠ (Origins.ofHost host b).backend) ∧
    ∃ a b, Settings.configuration? "[idp]\norigin = \"https://sso.example.com\"\n" (fun _ => none) = some a ∧
      Settings.configuration? "" (originVariable "https://sso.example.com") = some b ∧
      ∀ app pem host, (Provider.ofConfig a).metadata app pem host =
        (Provider.ofConfig b).metadata app pem host := by
  have hempty : Settings.parse? "" = some ⟨.table, { ({} : Config) with origin := none }⟩ := by decide +kernel
  have hslash : Settings.parse? "[idp]\norigin = \"https://sso.example.com/\"\n" =
      some ⟨.table, { ({} : Config) with origin := some "https://sso.example.com/" }⟩ := by decide +kernel
  have htidy : Settings.parse? "[idp]\norigin = \"https://sso.example.com\"\n" =
      some ⟨.table, { ({} : Config) with origin := some "https://sso.example.com" }⟩ := by decide +kernel
  constructor
  · obtain ⟨a, b, ha, hb, _, hbackend, _⟩ := configured_origin hslash hempty
    refine ⟨a, b, ha, hb, fun host he => ?_⟩
    exact absurd ((hbackend host).mp he) (by decide +kernel)
  · obtain ⟨a, b, ha, hb, _, _, _, _, hsame⟩ := configured_origin htidy hempty
    exact ⟨a, b, ha, hb, (hsame (by decide +kernel)).1⟩

end Places

end IdentityProvider
