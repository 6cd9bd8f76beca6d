import BusRelay.Broker.SharedKey
import BusRelay.Proofs.Codec.Form
import BusRelay.Proofs.Json.Number
import BusRelay.Proofs.Text.Fields
import Mathlib
/-!
# What a token says

A token is cut at its ampersands into a resource, a signature, an expiry and the name of a key, each of which is read
back (`signWith_read_back`), whichever way to authenticate messages it is signed with. What is signed is a line of
form text and a line of digits, so it is signed for one resource and one second only (`signedText_injective`). A token
that is handed out says this of its resource and of one hour from now (`authorize_says`).

That printed integers are read back is known of the standard library (`Int.toInt?_repr`), and no part of Mathlib but the
whole brings this along.
-/

namespace BusRelay

open Utf8 (Bytes)

namespace SharedKey

/-! ## What is signed -/

/-- The line of the resource ends where the signed text has its first line end. -/
theorem splitOnce_signedText (uri : String) (expiry : Int) :
    Fields.splitOnce '\n' (signedText uri expiry).toList =
      some ((Form.encode uri).toList, (Json.integerText expiry).toList) := by
  have line : "\n".toList = ['\n'] := rfl
  rw [signedText, String.toList_append, String.toList_append, line, List.append_assoc, List.singleton_append]
  exact Fields.splitOnce_append (Form.not_mem_encode (by decide) uri) _

/-- No text is signed for two resources or two expiries. -/
theorem signedText_injective {uri uri' : String} {expiry expiry' : Int}
    (same : signedText uri expiry = signedText uri' expiry') : uri = uri' ∧ expiry = expiry' := by
  have split := splitOnce_signedText uri expiry
  rw [same, splitOnce_signedText] at split
  obtain ⟨resource, second⟩ := Prod.mk.inj (Option.some.inj split)
  have digits : expiry.repr = expiry'.repr := by
    rw [← Json.integerText_eq_repr, ← Json.integerText_eq_repr, String.toList_inj.1 second]
  have read := Int.toInt?_repr expiry
  rw [digits, Int.toInt?_repr] at read
  exact ⟨Form.encode_injective (String.toList_inj.1 resource.symm), (Option.some.inj read).symm⟩

/-! ## The fields of a token -/

/-- A name and its value, as they stand between ampersands. -/
def field (name value : String) : List Char := name.toList ++ '=' :: value.toList

theorem whole_field {name value : String} (first : '&' ∉ name.toList) (second : '&' ∉ value.toList) :
    '&' ∉ field name value := by
  intro mem
  rcases List.mem_append.1 mem with name | rest
  · exact first name
  · rcases List.mem_cons.1 rest with equals | value
    · exact absurd equals (by decide)
    · exact second value

/-- The fields of a token. -/
def fields (uri signature expiry name : String) : List (List Char) :=
  [field "sr" (Form.encode uri), field "sig" signature, field "se" expiry, field "skn" name]

theorem tokenText_eq (uri signature expiry name : String) : tokenText uri signature expiry name =
    "SharedAccessSignature " ++ String.ofList (Fields.join '&' (fields uri signature expiry name)) := by
  have head : "SharedAccessSignature sr=" = "SharedAccessSignature " ++ "sr" ++ "=" := by decide
  have signed : "&sig=" = "&" ++ "sig" ++ "=" := by decide
  have ends : "&se=" = "&" ++ "se" ++ "=" := by decide
  have named : "&skn=" = "&" ++ "skn" ++ "=" := by decide
  have and : "&".toList = ['&'] := rfl
  have equals : "=".toList = ['='] := rfl
  apply String.toList_inj.1
  unfold tokenText
  simp only [head, signed, ends, named]
  simp only [fields, Fields.join, field, String.toList_append, String.toList_ofList, and, equals, List.append_assoc,
    List.cons_append, List.nil_append]

theorem whole_form (s : String) : '&' ∉ (Form.encode s).toList := Form.not_mem_encode (by decide) s

theorem whole_integerText (n : Int) : '&' ∉ (Json.integerText n).toList := by
  intro mem
  rcases Json.mem_integerText mem with sign | digit
  · exact absurd sign (by decide)
  · exact absurd digit (by decide)

/-- A token is cut at its ampersands into its fields, if none of the texts in it has one. -/
theorem split_fields (uri : String) {signature expiry name : String} (signed : '&' ∉ signature.toList)
    (ends : '&' ∉ expiry.toList) (named : '&' ∉ name.toList) :
    Fields.split '&' (Fields.join '&' (fields uri signature expiry name)) = fields uri signature expiry name := by
  apply Fields.split_join (List.cons_ne_nil _ _)
  simp only [List.forall_mem_cons]
  exact ⟨whole_field (by decide) (whole_form uri), whole_field (by decide) signed, whole_field (by decide) ends,
    whole_field (by decide) named, nofun⟩

theorem fields_eq (uri signature expiry name : String) : fields uri signature expiry name =
    ["sr=" ++ Form.encode uri, "sig=" ++ signature, "se=" ++ expiry, "skn=" ++ name].map String.toList := by
  have resource : "sr=".toList = "sr".toList ++ ['='] := by decide
  have signed : "sig=".toList = "sig".toList ++ ['='] := by decide
  have ends : "se=".toList = "se".toList ++ ['='] := by decide
  have named : "skn=".toList = "skn".toList ++ ['='] := by decide
  simp only [fields, field, List.map_cons, List.map_nil, String.toList_append, resource, signed, ends, named,
    List.append_assoc, List.cons_append, List.nil_append]

/-- An integer is read back from its digits. -/
theorem toInt?_integerText (n : Int) : (Json.integerText n).toInt? = some n := by
  rw [Json.integerText_eq_repr, Int.toInt?_repr]

/-- Where a token is cut. -/
theorem signWith_split (mac : (key message : Bytes) → Bytes) (k : SharedKey) (named : '&' ∉ k.name.toList)
    (uri : String) (expiry : Int) : ∃ text, k.signWith mac uri expiry = "SharedAccessSignature " ++ text ∧
      Fields.split '&' text.toList = ["sr=" ++ Form.encode uri,
        "sig=" ++ Form.encode (Base64.encode (mac (Utf8.bytes k.key) (Utf8.bytes (signedText uri expiry)))),
        "se=" ++ Json.integerText expiry, "skn=" ++ k.name].map String.toList := by
  obtain ⟨signature, signed⟩ :
      ∃ s, s = Base64.encode (mac (Utf8.bytes k.key) (Utf8.bytes (signedText uri expiry))) := ⟨_, rfl⟩
  refine ⟨String.ofList (Fields.join '&' (fields uri (Form.encode signature) (Json.integerText expiry) k.name)), ?_, ?_⟩
  · rw [signWith, ← signed, tokenText_eq]
  · rw [← signed, String.toList_ofList, split_fields uri (whole_form signature) (whole_integerText expiry) named,
      fields_eq]

/-- **A token says what it is for.** Behind its scheme a token is cut at the ampersands into four fields: `sr`, which
is the form text of the resource, `sig`, which is that of the Base64 text of the signature, `se`, which is read as the
second of expiry, and `skn`, the name of the key. The signature is that of the text of `sr`, a line end and the text
of `se` under the key, and no other resource or expiry comes to the same signed text. -/
theorem signWith_read_back (mac : (key message : Bytes) → Bytes) (k : SharedKey) (named : '&' ∉ k.name.toList)
    (uri : String) (expiry : Int) :
    ∃ text sr sig se, k.signWith mac uri expiry = "SharedAccessSignature " ++ text ∧
      Fields.split '&' text.toList = ["sr=" ++ sr, "sig=" ++ sig, "se=" ++ se, "skn=" ++ k.name].map String.toList ∧
      Form.decode (Utf8.bytes sr) = Utf8.bytes uri ∧
      Form.decode (Utf8.bytes sig) =
        Utf8.bytes (Base64.encode (mac (Utf8.bytes k.key) (Utf8.bytes (signedText uri expiry)))) ∧
      signedText uri expiry = sr ++ "\n" ++ se ∧ se = expiry.repr ∧ se.toInt? = some expiry ∧
      ∀ uri' expiry', (uri', expiry') ≠ (uri, expiry) → signedText uri' expiry' ≠ signedText uri expiry := by
  obtain ⟨text, written, split⟩ := signWith_split mac k named uri expiry
  refine ⟨text, Form.encode uri, _, Json.integerText expiry, written, split, Form.decode_encode uri,
    Form.decode_encode _, rfl, Json.integerText_eq_repr expiry, toInt?_integerText expiry, ?_⟩
  intro uri' expiry' other same
  obtain ⟨rfl, rfl⟩ := signedText_injective same
  exact other rfl

/-- The token of a queue before the epoch, with a key whose name and resource have reserved characters. -/
theorem signWith_read_back_reserved :
    '&' ∉ "Root=a%20+b".toList ∧ ∃ text sr sig se,
      signWith Sha256.hmac ⟨"Root=a%20+b", "secret"⟩ "https://ns1/q 1&x=1\n" (-60) = "SharedAccessSignature " ++ text ∧
        Fields.split '&' text.toList =
          ["sr=" ++ sr, "sig=" ++ sig, "se=" ++ se, "skn=Root=a%20+b"].map String.toList ∧
        Form.decode (Utf8.bytes sr) = Utf8.bytes "https://ns1/q 1&x=1\n" ∧ se.toInt? = some (-60) := by
  have named : '&' ∉ "Root=a%20+b".toList := by decide
  obtain ⟨text, sr, sig, se, written, split, resource, -, -, -, second, -⟩ :=
    signWith_read_back Sha256.hmac ⟨"Root=a%20+b", "secret"⟩ named "https://ns1/q 1&x=1\n" (-60)
  exact ⟨named, text, sr, sig, se, written, split, resource, second⟩

/-! ## Tokens that are handed out -/

/-- What a token of a key says of a resource and a second, field by field, if it is signed with the key. -/
inductive Says (k : SharedKey) (uri : String) (expiry : Int) : (token : String) → Prop where
  | mk {text sr sig se : String}
      (fields : Fields.split '&' text.toList =
        ["sr=" ++ sr, "sig=" ++ sig, "se=" ++ se, "skn=" ++ k.name].map String.toList)
      (resource : Form.decode (Utf8.bytes sr) = Utf8.bytes uri) (expires : se.toInt? = some expiry)
      (signature : Form.decode (Utf8.bytes sig) =
        Utf8.bytes (Base64.encode (Sha256.hmac (Utf8.bytes k.key) (Utf8.bytes (sr ++ "\n" ++ se))))) :
      Says k uri expiry ("SharedAccessSignature " ++ text)

theorem sign_says (k : SharedKey) (named : '&' ∉ k.name.toList) (uri : String) (expiry : Int) :
    k.Says uri expiry (k.sign uri expiry) := by
  obtain ⟨text, written, split⟩ := signWith_split Sha256.hmac k named uri expiry
  rw [sign, written]
  exact .mk split (Form.decode_encode uri) (toInt?_integerText expiry) (Form.decode_encode _)

/-- A token that is handed out is good for one hour. -/
theorem authorize_says (k : SharedKey) (named : '&' ∉ k.name.toList) (uri : String) (now : Int) :
    k.Says uri (now + 3600) (k.authorize uri now) :=
  sign_says k named uri (now + 3600)

end SharedKey

end BusRelay
