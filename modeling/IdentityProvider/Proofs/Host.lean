import IdentityProvider.Origins
import IdentityProvider.Proofs.Net.Address
/-! Origins that are made from the host of a request. A port is not looked at, and neither are the brackets
around an address. -/

namespace IdentityProvider.Origins

section Name

variable {host name port : List Char}

lemma hostName_unbracketed (hb : host.head? ≠ some '[') : hostName host =
    match host.dropWhile (· != ':') with
    | _ :: port => if port.all Char.isDigit then host.takeWhile (· != ':') else host
    | [] => host := by
  unfold hostName
  split
  · exact absurd rfl hb
  · rfl

lemma hostName_plain (hb : name.head? ≠ some '[') (hc : ':' ∉ name) : hostName name = name := by
  rw [hostName_unbracketed hb, Text.dropWhile_all (Text.all_ne_of_not_mem hc)]

lemma hostName_port (hb : name.head? ≠ some '[') (hc : ':' ∉ name) (hp : port.all Char.isDigit = true) :
    hostName (name ++ ':' :: port) = name := by
  have hb' : (name ++ ':' :: port).head? ≠ some '[' := by
    cases name with
    | nil => exact fun h => absurd (Option.some.inj h) (by decide)
    | cons c name => exact hb
  have hend : (':' :: port).head?.any (· != ':') = false := rfl
  obtain ⟨htake, hdrop⟩ := Text.splitWhile_append (Text.all_ne_of_not_mem hc) hend
  rw [hostName_unbracketed hb', htake, hdrop]
  exact if_pos hp

lemma hostName_bracketed (h : ']' ∉ name) (rest : List Char) : hostName ('[' :: (name ++ ']' :: rest)) = name := by
  have hend : (']' :: rest).head?.any (· != ']') = false := rfl
  exact (Text.splitWhile_append (Text.all_ne_of_not_mem h) hend).1

lemma hostName_colons (hb : host.head? ≠ some '[') (hc : 2 ≤ host.count ':') : hostName host = host := by
  rw [hostName_unbracketed hb]
  split
  · rename_i c port hd
    obtain ⟨hhost, hcolon⟩ := Text.dropWhile_eq_cons hd
    have hc' : c = ':' := by simpa using hcolon
    split
    · rename_i hp
      have hname : (host.takeWhile (· != ':')).count ':' = 0 := by
        rw [List.count_eq_zero]
        intro hm
        exact absurd (List.mem_takeWhile_imp hm) (by decide)
      have hport : port.count ':' = 0 := by
        rw [List.count_eq_zero]
        intro hm
        exact absurd (List.all_eq_true.mp hp ':' hm) (by decide)
      rw [hhost, List.count_append, List.count_cons, hname, hport, hc'] at hc
      exact absurd hc (by decide)
    · rfl
  · rfl

end Name

lemma scheme_cases (host : List Char) : scheme host = "http://" ∨ scheme host = "https://" := by
  unfold scheme
  extract_lets name
  split
  · exact Or.inl rfl
  · exact Or.inr rfl

lemma scheme_eq_http_iff {host : List Char} :
    scheme host = "http://" ↔ '.' ∉ hostName host ∨ Net.isAddress (hostName host) = true := by
  unfold scheme
  extract_lets name
  split
  · rename_i h
    refine iff_of_true rfl ?_
    simpa [name] using h
  · rename_i h
    refine iff_of_false (by decide) ?_
    simpa [name] using h

lemma scheme_congr {host host' : List Char} (h : hostName host = hostName host') : scheme host = scheme host' := by
  rw [scheme, scheme, h]

lemma not_isIpv6_of_no_colon {name : List Char} (hc : ':' ∉ name) : Net.isIpv6 name = false := by
  rw [Bool.eq_false_iff]
  intro h
  obtain ⟨a, rfl⟩ := Net.isIpv6_iff.mp h
  have hcolons := a.colons
  rw [List.count_eq_zero.mpr hc] at hcolons
  exact absurd hcolons (by decide)

lemma scheme_plain {name : List Char} (hb : name.head? ≠ some '[') (hc : ':' ∉ name) :
    scheme name = "http://" ↔ '.' ∉ name ∨ ∃ a : Net.Ipv4, name = a.text := by
  rw [scheme_eq_http_iff, hostName_plain hb hc, Net.isAddress, not_isIpv6_of_no_colon hc, Bool.or_false,
    Net.isIpv4_iff]

lemma scheme_of_ipv6 {host : List Char} {a : Net.Ipv6} (h : hostName host = a.text) : scheme host = "http://" := by
  rw [scheme_eq_http_iff, h, Net.isAddress, Net.isIpv6_text, Bool.or_true]
  exact Or.inr rfl

lemma ipv6_head (a : Net.Ipv6) : a.text.head? ≠ some '[' := by
  intro h
  exact a.not_mem_text (by decide) (List.mem_of_mem_head? h)

def IsDevelopment (config : Config) (host : String) : Prop :=
  config.devMode = true ∧ host = developmentHost

lemma ofHost_made {config : Config} (hunset : ∀ o, config.origin = some o → o = "") {host : String}
    (hd : ¬ IsDevelopment config host) :
    ofHost host config = ⟨scheme host.toList ++ host, scheme host.toList ++ host⟩ := by
  have hnone : config.origin.filter (· ≠ "") = none := by
    rw [Option.filter_eq_none_iff]
    intro o ho
    simpa using hunset o ho
  have hdev : ¬ (config.devMode && host == developmentHost) = true := by
    rw [Bool.and_eq_true, beq_iff_eq]
    exact hd
  rw [ofHost, hnone]
  exact if_neg hdev

/-- With no origin set, a host is put after a scheme that its name alone tells, whatever port follows it. -/
theorem scheme_follows_name {config : Config} (hunset : ∀ o, config.origin = some o → o = "") :
    (∀ host, ¬ IsDevelopment config host → ∃ s, (s = "http://" ∨ s = "https://") ∧ s = scheme host.toList ∧
      ofHost host config = ⟨s ++ host, s ++ host⟩) ∧
    (∀ name port : List Char, name.head? ≠ some '[' → ':' ∉ name → port.all Char.isDigit = true →
      scheme (name ++ ':' :: port) = scheme name ∧
      (scheme name = "http://" ↔ '.' ∉ name ∨ ∃ a : Net.Ipv4, name = a.text) ∧
      (scheme name = "https://" ↔ '.' ∈ name ∧ ∀ a : Net.Ipv4, name ≠ a.text)) ∧
    ∀ a : Net.Ipv6, scheme a.text = "http://" ∧ ∀ after, scheme ('[' :: (a.text ++ ']' :: after)) = "http://" := by
  refine ⟨?_, ?_, ?_⟩
  · intro host hd
    exact ⟨_, scheme_cases _, rfl, ofHost_made hunset hd⟩
  · intro name port hb hc hp
    have hhttp := scheme_plain hb hc
    refine ⟨scheme_congr ?_, hhttp, ?_⟩
    · rw [hostName_port hb hc hp, hostName_plain hb hc]
    · have hother : scheme name = "https://" ↔ ¬ scheme name = "http://" := by
        rcases scheme_cases name with h | h <;> rw [h] <;> decide
      rw [hother, hhttp, not_or, not_not, not_exists]
  · intro a
    have hbracket : ']' ∉ a.text := a.not_mem_text (by decide)
    exact ⟨scheme_of_ipv6 (hostName_colons (ipv6_head a) a.colons),
      fun after => scheme_of_ipv6 (hostName_bracketed hbracket after)⟩

def mappedAddress : Net.Ipv6 :=
  .compressed [] ⟨[⟨"ffff".toList, by decide, by decide, by decide⟩], some ⟨1, 2, 3, 4⟩⟩ (by decide)

theorem scheme_follows_name_mapped :
    ofHost "10.0.0.5:8000" {} = ⟨"http://10.0.0.5:8000", "http://10.0.0.5:8000"⟩ ∧
      ofHost "[::ffff:1.2.3.4]:443" {} = ⟨"http://[::ffff:1.2.3.4]:443", "http://[::ffff:1.2.3.4]:443"⟩ := by
  obtain ⟨hmade, hname, haddress⟩ := @scheme_follows_name {} nofun
  obtain ⟨hport, hhttp, _⟩ := hname "10.0.0.5".toList "8000".toList (by decide) (by decide) (by decide)
  have hfour : scheme "10.0.0.5:8000".toList = "http://" :=
    hport.trans (hhttp.mpr (Or.inr ⟨⟨10, 0, 0, 5⟩, by decide⟩))
  have hsix : scheme "[::ffff:1.2.3.4]:443".toList = "http://" := (haddress mappedAddress).2 ":443".toList
  constructor
  · obtain ⟨s, _, rfl, hs⟩ := hmade "10.0.0.5:8000" (by rintro ⟨h, _⟩; cases h)
    rw [hs, hfour]
    decide
  · obtain ⟨s, _, rfl, hs⟩ := hmade "[::ffff:1.2.3.4]:443" (by rintro ⟨h, _⟩; cases h)
    rw [hs, hsix]
    decide

end IdentityProvider.Origins
