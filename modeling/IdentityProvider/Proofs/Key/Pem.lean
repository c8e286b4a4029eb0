import IdentityProvider.Key.Pem
import IdentityProvider.Proofs.Bytes.Encoding

namespace IdentityProvider.Pem

lemma splitAtMarker_skip {m : Char} {marker left : List Char} (hm : marker = m :: left) {text : List Char}
    (ht : m ∉ text) (read rest : List Char) :
    splitAtMarker marker marker read (text ++ rest) = splitAtMarker marker marker (text.reverse ++ read) rest := by
  subst hm
  induction text generalizing read with
  | nil => rfl
  | cons c text ih =>
    rw [List.mem_cons, not_or] at ht
    rw [List.cons_append, splitAtMarker, if_neg (Ne.symm ht.1), ih ht.2, List.reverse_cons, List.append_assoc,
      List.singleton_append]

lemma splitAtMarker_match {marker left : List Char} (hl : left ≠ []) (read rest : List Char) :
    splitAtMarker marker left read (left ++ rest) =
      some (((left.reverse ++ read).drop marker.length).reverse, rest) := by
  induction left generalizing read with
  | nil => exact absurd rfl hl
  | cons m left ih =>
    rw [List.cons_append, splitAtMarker, if_pos rfl]
    by_cases h : left = []
    · subst h
      rw [if_pos rfl]
      rfl
    · rw [if_neg h, ih h, List.reverse_cons, List.append_assoc, List.singleton_append]

lemma splitAt_append {m : Char} {marker : String} {left text : List Char} (hm : marker.toList = m :: left)
    (ht : m ∉ text) (rest : List Char) :
    splitAt? marker (text ++ (marker.toList ++ rest)) = some (text, rest) := by
  have hne : marker.toList ≠ [] := by
    rw [hm]
    exact List.cons_ne_nil m left
  rw [splitAt?, splitAtMarker_skip hm ht, splitAtMarker_match hne, List.append_nil,
    List.drop_left' (List.length_reverse ..), List.reverse_reverse]

lemma splitAtMarker_none {m : Char} {marker left : List Char} (hm : marker = m :: left) {text : List Char}
    (ht : m ∉ text) (read : List Char) : splitAtMarker marker marker read text = none := by
  have h := splitAtMarker_skip hm ht read []
  rw [List.append_nil] at h
  rw [h, hm]
  rfl

def frame (first last dashes newline label body : String) : String :=
  first ++ label ++ dashes ++ newline ++ body ++ newline ++ last ++ label ++ dashes ++ newline

def write (label : String) (contents : Bytes) : String :=
  frame "-----BEGIN " "-----END " "-----" "\n" label (Base64.encode contents)

lemma toList_frame (first last dashes newline label body : String) :
    (frame first last dashes newline label body).toList = first.toList ++ (label.toList ++ (dashes.toList ++
      (newline.toList ++ (body.toList ++ newline.toList ++ (last.toList ++ (label.toList ++ (dashes.toList ++
        newline.toList))))))) := by
  simp only [frame, String.toList_append, List.append_assoc]

-- the marks are variables in `toList_frame`, since rewriting compares texts with each other slowly
lemma toList_write (label : String) (contents : Bytes) :
    (write label contents).toList = "-----BEGIN ".toList ++ (label.toList ++ ("-----".toList ++
      (['\n'] ++ (Base64.digits contents ++ ['\n'] ++ ("-----END ".toList ++ (label.toList ++ ("-----".toList ++
        ['\n']))))))) := by
  have h := toList_frame "-----BEGIN " "-----END " "-----" "\n" label (Base64.encode contents)
  rw [Base64.toList_encode] at h
  exact h

lemma digits_not_mem {c : Char} (hd : ∀ n : Fin 64, Base64.digit n ≠ c) (he : '=' ≠ c) (bs : Bytes) :
    c ∉ Base64.digits bs := by
  intro h
  exact Base64.digits_forall (P := fun d => d ≠ c) (fun n hn => hd ⟨n, hn⟩) he bs c h rfl

lemma dropWhile_body {contents : Bytes} (h : contents ≠ []) (rest : List Char) :
    ('\n' :: (Base64.digits contents ++ rest)).dropWhile Text.isMarkupBlank = Base64.digits contents ++ rest := by
  have hb : ∀ n : Fin 64, Text.isMarkupBlank (Base64.digit n) = false := by decide
  have hnl : Text.isMarkupBlank '\n' = true := by decide
  have hall := Base64.digits_forall (P := fun c => Text.isMarkupBlank c = false)
    (fun n hn => hb ⟨n, hn⟩) (by decide)
    contents
  cases hc : Base64.digits contents with
  | nil =>
    have hdec := Base64.decodeOnto_digitsOf [] contents
    rw [hc] at hdec
    exact absurd (Option.some.inj hdec).symm h
  | cons c cs =>
    rw [hc] at hall
    rw [List.dropWhile_cons_of_pos hnl, List.cons_append,
      List.dropWhile_cons_of_neg (by simp [hall c List.mem_cons_self])]

lemma splitHeaders_body (contents : Bytes) :
    splitHeaders (Base64.digits contents ++ ['\n']) = ([], Base64.digits contents ++ ['\n']) := by
  have hn : '\n' ∉ Base64.digits contents := digits_not_mem (by decide) (by decide) contents
  have hr : '\r' ∉ Base64.digits contents ++ ['\n'] := by
    rw [List.mem_append, not_or]
    exact ⟨digits_not_mem (by decide) (by decide) contents, by decide⟩
  have h1 : splitAt? "\n\n" (Base64.digits contents ++ ['\n']) = none := by
    have hs : "\n\n".toList = ['\n', '\n'] := rfl
    rw [splitAt?, hs, splitAtMarker_skip rfl hn]
    rfl
  have h2 : splitAt? "\r\n\r\n" (Base64.digits contents ++ ['\n']) = none :=
    splitAtMarker_none rfl hr []
  rw [splitHeaders, h1, h2]
  rfl

lemma filter_body (contents : Bytes) :
    (Base64.digits contents ++ ['\n']).filter (fun c => !Text.isBlank c) = Base64.digits contents := by
  have hb : Text.isBlank '\n' = true := by decide
  have h := Base64.removeBlanks_encode contents
  rw [Text.removeBlanks, Base64.toList_encode] at h
  rw [List.filter_append, h]
  simp [hb]

theorem parse_write {label : String} {contents : Bytes} (hl : label ≠ "") (hd : '-' ∉ label.toList)
    (hc : contents ≠ []) : parse (write label contents) = .ok ⟨label, contents⟩ := by
  have hl' : label.toList ≠ [] := by
    intro h
    exact hl (String.toList_eq_nil_iff.mp h)
  have hbody : '-' ∉ Base64.digits contents ++ ['\n'] := by
    rw [List.mem_append, not_or]
    exact ⟨digits_not_mem (by decide) (by decide) contents, by decide⟩
  have h1 : ∀ rest, splitAt? "-----BEGIN " ("-----BEGIN ".toList ++ rest) = some ([], rest) :=
    splitAt_append rfl List.not_mem_nil
  have h2 : ∀ rest, splitAt? "-----" (label.toList ++ ("-----".toList ++ rest)) = some (label.toList, rest) :=
    splitAt_append rfl hd
  have h3 : ∀ rest, splitAt? "-----END " (Base64.digits contents ++ ['\n'] ++ ("-----END ".toList ++ rest)) =
      some (Base64.digits contents ++ ['\n'], rest) := splitAt_append rfl hbody
  have h4 : ∀ rest, (['\n'] ++ (Base64.digits contents ++ ['\n'] ++ rest)).dropWhile Text.isMarkupBlank =
      Base64.digits contents ++ ['\n'] ++ rest := by
    intro rest
    rw [List.append_assoc]
    exact dropWhile_body hc _
  have hdata : Base64.decode (Base64.digits contents) = some contents := by
    rw [Base64.decode, Base64.decodeOnto_digitsOf, List.reverse_nil, List.nil_append]
  rw [parse]
  rw [toList_write]
  simp only [h1, h2, h3, h4, bind, Option.bind, pure, splitHeaders_body, filter_body, hdata, hl', or_self, ne_eq,
    not_true_eq_false, if_false, linesOnto, if_true, List.any_nil, String.ofList_toList]
  rfl

end IdentityProvider.Pem
