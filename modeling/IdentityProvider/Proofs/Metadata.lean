import IdentityProvider.Metadata
import IdentityProvider.Proofs.Key.Pem
import IdentityProvider.Proofs.Signature.Verification
import IdentityProvider.Proofs.Xml.Descendants
/-! The document that describes a provider. It is written just if there is a certificate and every character may
stand in it, and whoever reads it finds what it was made of. -/

namespace IdentityProvider

open Xml

namespace Xml

lemma tokens_declaration (rest : List Char) :
    tokens (declaration.toList ++ rest) = .instruction :: tokens rest := by
  have hread : readMarkup? (declaration.toList.tail ++ rest) = some (.instruction, rest) := rfl
  exact tokens_markup hread

lemma dropByteOrderMark_tag {cs : List Char} (h : cs.head? = some '<') : dropByteOrderMark cs = cs := by
  rw [dropByteOrderMark, h]
  exact if_neg (by decide)

lemma parse_declaration {body : String} (h : body.toList.head? = some '<') :
    parse (declaration ++ body) = parse body := by
  have hscan : scan (declaration ++ body).toList = .instruction :: scan body.toList := by
    rw [scan, String.toList_append, dropByteOrderMark_tag rfl, tokens_declaration, scan, dropByteOrderMark_tag h]
    rfl
  have hstep : Draft.empty.step .instruction = .ok Draft.empty := rfl
  rw [parse, hscan, foldlM_cons_ok hstep, parse]

lemma toDocument_ok_iff {e : Element} {text : String} :
    e.toDocument = .ok text ↔ e.IsWritable ∧
      text = declaration ++ String.ofList (renderNode wireEscapes e.toNode) := by
  rw [Element.toDocument, bind_ok_iff]
  constructor
  · rintro ⟨xml, hxml, h⟩
    obtain ⟨hw, rfl⟩ := toXml_ok_iff.mp hxml
    exact ⟨hw, (Except.ok.inj h).symm⟩
  · rintro ⟨hw, rfl⟩
    exact ⟨_, toXml_ok_iff.mpr ⟨hw, rfl⟩, rfl⟩

end Xml

namespace Metadata

variable {app : Application} {origins : Origins} {der : Bytes}

lemma document_isNamed (certificate : String) (app : Application) (origins : Origins) :
    (document certificate app origins).IsNamed := by
  simp only [Element.IsNamed, document, descriptor, keyDescriptor, Signature.keyInfo, all_ofElements, all_ofText,
    all_childless, attributeElement, isNamedTag, List.all_append, List.map_cons, List.map_nil, List.all_cons,
    List.all_nil, nameIdFormats, attributes]
  decide +kernel

lemma document_isWritable_iff {certificate : String} (hc : isXmlText certificate = true) :
    (document certificate app origins).IsWritable ↔ isXmlText origins.backend = true ∧
      isXmlText (location app origins) = true := by
  simp only [Element.IsWritable, document, descriptor, keyDescriptor, Signature.keyInfo,
    all_ofElements, all_ofText, all_childless, attributeElement, isWritableTag, List.all_append, List.map_cons,
    List.map_nil, List.all_cons, List.all_nil, nameIdFormats, attributes, hc]
  generalize isXmlText origins.backend = b
  generalize isXmlText (location app origins) = l
  cases b <;> cases l <;>
    simp only [Bool.and_false, Bool.false_and, Bool.false_eq_true, false_and, and_false, and_self, iff_true]
  decide +kernel

lemma signOn_document (certificate : String) (app : Application) (origins : Origins) :
    (document certificate app origins).allNamed "SingleSignOnService" = [⟨"md:SingleSignOnService",
      [("Binding", Binding.httpRedirect.uri), ("Location", location app origins)], []⟩] := by
  simp (disch := decide) only [document, descriptor, keyDescriptor, Signature.keyInfo, Element.allNamed_ofElements,
    Element.allNamed_ofText, Element.allNamed_childless, attributeElement, nameIdFormats, attributes,
    List.map_cons, List.map_nil,
    List.flatMap_append, List.flatMap_cons, List.flatMap_nil, List.append_nil, List.nil_append]
  exact Element.allNamed_of_eq "md:SingleSignOnService" (by decide) rfl

lemma certificate_document (certificate : String) (app : Application) (origins : Origins) :
    (document certificate app origins).allNamed "X509Certificate" =
      [.ofText "ds:X509Certificate" [] certificate] := by
  simp (disch := decide) only [document, descriptor, keyDescriptor, Signature.keyInfo, Element.allNamed_ofElements,
    Element.allNamed_ofText, Element.allNamed_childless, attributeElement, nameIdFormats, attributes,
    List.map_cons, List.map_nil,
    List.flatMap_append, List.flatMap_cons, List.flatMap_nil, List.append_nil]
  exact Element.allNamed_of_eq "ds:X509Certificate" (by decide) rfl

structure Describes (tree : Element) (app : Application) (origins : Origins) (der : Bytes) : Prop where
  entityId : tree.attribute? "entityID" = some origins.backend
  signOn : (tree.allNamed "SingleSignOnService").map (fun e => e.attribute? "Location") =
    [some (origins.frontend ++ "/login/saml/authorize/" ++ app.owner ++ "/" ++ app.name)]
  certificate : ∃ text, (tree.allNamed "X509Certificate").map Element.textContent = [text] ∧
    Base64.decode text.toList = some der ∧ ∀ c ∈ text.toList, Text.isBlank c = false

lemma document_describes (app : Application) (origins : Origins) (der : Bytes) :
    Describes (document (Base64.encode der) app origins) app origins der where
  entityId := rfl
  signOn := by
    rw [signOn_document]
    rfl
  certificate := by
    refine ⟨Base64.encode der, ?_, ?_, ?_⟩
    · rw [certificate_document, List.map_singleton, Element.textContent_ofText]
    · rw [Base64.toList_encode, Base64.decode, Base64.decodeOnto_digitsOf]
      rfl
    · have hd : ∀ n : Fin 64, Text.isBlank (Base64.digit n) = false := by decide
      rw [Base64.toList_encode]
      exact Base64.digits_forall (fun n hn => hd ⟨n, hn⟩) (by decide) der

lemma Describes.merged {tree : Element} (h : Describes tree app origins der) :
    Describes tree.merged app origins der where
  entityId := h.entityId
  signOn := by
    rw [Element.allNamed_merged, List.map_map]
    exact h.signOn
  certificate := by
    obtain ⟨text, htext, hread⟩ := h.certificate
    refine ⟨text, ?_, hread⟩
    rw [Element.allNamed_merged, List.map_map, ← htext]
    exact List.map_congr_left fun e _ => e.textContent_merged

def HasXmlNames (app : Application) (origins : Origins) : Prop :=
  isXmlText origins.backend = true ∧ isXmlText origins.frontend = true ∧ isXmlText app.owner = true ∧
    isXmlText app.name = true

instance (app : Application) (origins : Origins) : Decidable (HasXmlNames app origins) :=
  inferInstanceAs (Decidable (_ ∧ _))

lemma isXmlText_location_iff : isXmlText (location app origins) = true ↔
    isXmlText origins.frontend = true ∧ isXmlText app.owner = true ∧ isXmlText app.name = true := by
  have hpath : isXmlText "/login/saml/authorize/" = true := by decide
  have hslash : isXmlText "/" = true := by decide
  simp only [location, isXmlText_append, hpath, hslash, Bool.and_true, Bool.and_eq_true, and_assoc]

end Metadata

lemma certificateDer_ok_iff {pem : String} {der : Bytes} :
    certificateDer pem = .ok der ↔ Pem.parse pem = .ok ⟨"CERTIFICATE", der⟩ := by
  rw [certificateDer, readPem]
  cases Pem.parse pem with
  | error e => exact iff_of_false nofun nofun
  | ok block =>
    obtain ⟨label, contents⟩ := block
    by_cases hl : label = "CERTIFICATE"
    · simp [hl, bind, Except.bind, pure, Except.pure]
    · simp [hl, bind, Except.bind, throw, throwThe, MonadExceptOf.throw]

namespace Metadata

variable {app : Application} {origins : Origins} {pem : String}

lemma write_of_certificate {der : Bytes} (h : Pem.parse pem = .ok ⟨"CERTIFICATE", der⟩) :
    write app pem origins =
      (document (Base64.encode der) app origins).toDocument.mapError fun e => .serialization e.message := by
  rw [write, certificateBase64, certificateDer_ok_iff.mpr h]
  rfl

lemma write_of_no_certificate (app : Application) (origins : Origins)
    (h : ¬ ∃ der, Pem.parse pem = .ok ⟨"CERTIFICATE", der⟩) :
    ∃ detail, write app pem origins = .error (.invalidCertificate detail) := by
  rw [write, certificateBase64]
  cases hc : certificateDer pem with
  | ok der => exact absurd ⟨der, certificateDer_ok_iff.mp hc⟩ h
  | error e => exact ⟨e.message, rfl⟩

lemma write_ok_iff {der : Bytes} (h : Pem.parse pem = .ok ⟨"CERTIFICATE", der⟩) {text : String} :
    write app pem origins = .ok text ↔ HasXmlNames app origins ∧
      text = declaration ++ String.ofList (renderNode wireEscapes
        (document (Base64.encode der) app origins).toNode) := by
  rw [write_of_certificate h, mapError_ok_iff, toDocument_ok_iff,
    document_isWritable_iff (Signature.isXmlText_encode der), isXmlText_location_iff, HasXmlNames]

lemma write_unwritable {der : Bytes} (h : Pem.parse pem = .ok ⟨"CERTIFICATE", der⟩)
    (hx : ¬ HasXmlNames app origins) :
    ∃ detail, write app pem origins = .error (.serialization detail) := by
  cases hw : write app pem origins with
  | ok text => exact absurd ((write_ok_iff h).mp hw).1 hx
  | error f =>
    rw [write_of_certificate h] at hw
    obtain ⟨e, _, rfl⟩ := mapError_error_iff.mp hw
    exact ⟨e.message, rfl⟩

lemma write_describes {der : Bytes} (h : Pem.parse pem = .ok ⟨"CERTIFICATE", der⟩) {text : String}
    (hw : write app pem origins = .ok text) : ∃ body tree, text = declaration ++ body ∧ parse body = .ok tree ∧
      parse text = .ok tree ∧ Describes tree app origins der := by
  obtain ⟨_, rfl⟩ := (write_ok_iff h).mp hw
  have hread := parse_render wireEscapes (document_isNamed (Base64.encode der) app origins)
  refine ⟨_, _, rfl, hread, ?_, (document_describes app origins der).merged⟩
  rw [parse_declaration, hread]
  rw [String.toList_ofList]
  rfl

/-- The document is written just if there is a certificate and every character may stand in it, and the failure
tells which of the two is missing. What is written reads back, and says what it was made of. -/
theorem metadata_describes (app : Application) (origins : Origins) (pem : String) :
    ((∃ text, write app pem origins = .ok text) ↔
      (∃ der, Pem.parse pem = .ok ⟨"CERTIFICATE", der⟩) ∧ HasXmlNames app origins) ∧
    ((∃ detail, write app pem origins = .error (.invalidCertificate detail)) ↔
      ¬ ∃ der, Pem.parse pem = .ok ⟨"CERTIFICATE", der⟩) ∧
    ((∃ detail, write app pem origins = .error (.serialization detail)) ↔
      (∃ der, Pem.parse pem = .ok ⟨"CERTIFICATE", der⟩) ∧ ¬ HasXmlNames app origins) ∧
    ∀ der text, Pem.parse pem = .ok ⟨"CERTIFICATE", der⟩ → write app pem origins = .ok text →
      ∃ body tree, text = declaration ++ body ∧ parse body = .ok tree ∧ parse text = .ok tree ∧
        Describes tree app origins der := by
  rw [← and_assoc, ← and_assoc]
  refine ⟨?_, fun der text h hw => write_describes h hw⟩
  by_cases hc : ∃ der, Pem.parse pem = .ok ⟨"CERTIFICATE", der⟩
  · obtain ⟨der, hder⟩ := id hc
    by_cases hx : HasXmlNames app origins
    · rw [(write_ok_iff hder).mpr ⟨hx, rfl⟩]
      exact ⟨⟨iff_of_true ⟨_, rfl⟩ ⟨hc, hx⟩, iff_of_false nofun (not_not.mpr hc)⟩,
        iff_of_false nofun fun h => h.2 hx⟩
    · obtain ⟨detail, hw⟩ := write_unwritable hder hx
      rw [hw]
      exact ⟨⟨iff_of_false nofun fun h => hx h.2, iff_of_false nofun (not_not.mpr hc)⟩,
        iff_of_true ⟨_, rfl⟩ ⟨hc, hx⟩⟩
  · obtain ⟨detail, hw⟩ := write_of_no_certificate app origins hc
    rw [hw]
    exact ⟨⟨iff_of_false nofun fun h => hc h.1, iff_of_true ⟨_, rfl⟩ hc⟩, iff_of_false nofun fun h => hc h.1⟩

theorem metadata_describes_escaped :
    ∃ text tree, write { owner := "a\"&'<>", name := "\r\n\t" }
      (Pem.write "CERTIFICATE" [1, 2, 3, 4]) ⟨"https://f\n", "<b>\r"⟩ = .ok text ∧
      parse text = .ok tree ∧ tree.attribute? "entityID" = some "<b>\r" ∧
      (tree.allNamed "SingleSignOnService").map (fun e => e.attribute? "Location") =
        [some "https://f\n/login/saml/authorize/a\"&'<>/\r\n\t"] := by
  have hpem : Pem.parse (Pem.write "CERTIFICATE" [1, 2, 3, 4]) = .ok ⟨"CERTIFICATE", [1, 2, 3, 4]⟩ :=
    Pem.parse_write (by decide) (by decide) (by decide)
  obtain ⟨hok, _, _, hread⟩ := metadata_describes { owner := "a\"&'<>", name := "\r\n\t" } ⟨"https://f\n", "<b>\r"⟩
    (Pem.write "CERTIFICATE" [1, 2, 3, 4])
  obtain ⟨text, hw⟩ := hok.mpr ⟨⟨_, hpem⟩, by decide +kernel⟩
  obtain ⟨_, tree, _, _, htree, hdescribes⟩ := hread _ text hpem hw
  have hl : "https://f\n" ++ "/login/saml/authorize/" ++ "a\"&'<>" ++ "/" ++ "\r\n\t" =
      "https://f\n/login/saml/authorize/a\"&'<>/\r\n\t" := by decide
  exact ⟨text, tree, hw, htree, hdescribes.entityId, hl ▸ hdescribes.signOn⟩

end Metadata

end IdentityProvider
