import Heightt.Bachs.Client
import Heightt.Segments
import Mathlib.Data.List.TakeWhile

/-!
# Signatures of webhooks

Which headers `verifyWebhookSignature` accepts. A part of the header may have a prefix, and a
Base64 text of an HMAC that reads as a version marker itself is taken for one: such texts are a
`v` and 42 digits.
-/

namespace Heightt.Bachs

open Text Segments

/-! ## What a header says -/

/-- 64 hexadecimal digits, or a Base64 text, that stand for the HMAC. -/
def Encodes (t : Text) (d : Digest) : Prop :=
  (t.length = 64 ∧ (∀ u ∈ t, hexDigit u = true) ∧ fromHex t = d) ∨ fromBase64 t = d

instance (t : Text) (d : Digest) : Decidable (Encodes t d) := inferInstanceAs (Decidable (_ ∨ _))

/-- `sha256=` or `vN=` before a text. -/
def Prefixed (t r : Text) : Prop :=
  ∃ w, (w ∈ (literal "sha256=").language ∨ w ∈ (version ++ literal "=").language) ∧ t = w ++ r

/-- The bytes of the secret, and those of a Base64 text after `whsec_`. -/
def IsKey (secret : Text) (key : Bytes) : Prop :=
  key = utf8 secret ∨ ∃ text, secret = units "whsec_" ++ text ∧ key = fromBase64 text

/-- A `v` and 42 digits, with nothing or `=` after them. -/
def ReadsAsVersion (t : Text) : Prop :=
  ∃ v ds, t.takeWhile (· ≠ padding) = v :: ds ∧ canonicalize v = 86 ∧ ds.length = 42 ∧ ∀ u ∈ ds, digit u = true

def BachsClient.Fresh (client : BachsClient) (now : Nat) (timestamp : Text) : Prop :=
  timestamp ≠ [] ∧ ∃ seconds, number timestamp = some seconds ∧ |(now : ℚ) / 1000 - seconds| ≤ client.toleranceSeconds

/-- A part of the header is the HMAC under a key, with or without a prefix. -/
def BachsClient.Signed (client : BachsClient) (secret : Text) (payload : Payload) (signature timestamp : Text) : Prop :=
  ∃ key, IsKey secret key ∧ ∃ part, IsPart separator signature part ∧ ∃ r, (r = trim part ∨ Prefixed (trim part) r) ∧
    Encodes r (client.hmac key (BachsClient.signedPayload payload timestamp))

/-- A part of the header is the HMAC under a key, after a prefix or without one, and does not read
as a version. -/
def BachsClient.SignedPlainly (client : BachsClient) (secret : Text) (payload : Payload) (signature timestamp : Text) :
    Prop :=
  ∃ key, IsKey secret key ∧ ∃ part, IsPart separator signature part ∧
    ∃ r, (r = trim part ∧ ¬ReadsAsVersion (trim part) ∨ Prefixed (trim part) r) ∧
      Encodes r (client.hmac key (BachsClient.signedPayload payload timestamp))

/-! ## The prefixes -/

/-- `v\d+` as a whole. -/
def IsVersion (t : Text) : Prop := ∃ v ds, t = v :: ds ∧ canonicalize v = 86 ∧ ds ≠ [] ∧ ∀ u ∈ ds, digit u = true

theorem mem_language_version {w : Text} : w ∈ version.language ↔ IsVersion w := by
  constructor
  · rintro ⟨-, ⟨v, hv, rfl⟩, -, ⟨-, ⟨d, hd, rfl⟩, -, ⟨ds, hds, -, rfl, rfl⟩, rfl⟩, rfl⟩
    refine ⟨v, d :: ds, by simp, beq_iff_eq.1 hv, List.cons_ne_nil d ds, ?_⟩
    exact List.forall_mem_cons.2 ⟨hd, hds⟩
  · rintro ⟨v, ds, rfl, hv, some_, digits⟩
    obtain ⟨d, ds, rfl⟩ := List.exists_cons_of_ne_nil some_
    obtain ⟨hd, hds⟩ := List.forall_mem_cons.1 digits
    exact ⟨[v], ⟨v, beq_iff_eq.2 hv, rfl⟩, d :: ds, ⟨[d], ⟨d, hd, rfl⟩, ds, ⟨ds, hds, [], rfl, by simp⟩, rfl⟩, rfl⟩

theorem versionMarker_iff {t : Text} : versionMarker t = true ↔ IsVersion t := by
  rw [versionMarker, List.any_eq_true, ← mem_language_version]
  constructor
  · rintro ⟨r, hr, empty⟩
    obtain ⟨w, hw, same⟩ := Pattern.mem_rests.1 hr
    rw [List.isEmpty_iff.1 empty, List.append_nil] at same
    rw [same]
    exact hw
  · intro h
    exact ⟨[], Pattern.mem_rests.2 ⟨t, h, (List.append_nil t).symm⟩, rfl⟩

/-- What stands before the `=` of a prefix. -/
def IsLabel (head : Text) : Prop := head.map canonicalize = (units "sha256").map canonicalize ∨ IsVersion head

theorem digit_ne_padding {u : UInt16} (h : digit u = true) : u ≠ padding := by
  rintro rfl
  cases h

theorem IsLabel.clear {head : Text} (h : IsLabel head) : padding ∉ head := by
  intro mem
  obtain same | ⟨v, ds, rfl, hv, -, digits⟩ := h
  · have found := List.mem_map_of_mem (f := canonicalize) mem
    rw [same] at found
    revert found
    decide
  · obtain rfl | mem := List.mem_cons.1 mem
    · cases hv
    · exact digit_ne_padding (digits _ mem) rfl

theorem prefixed_iff {t r : Text} : Prefixed t r ↔ ∃ head, IsLabel head ∧ t = head ++ padding :: r := by
  have equals {w : Text} (text : String) : w ∈ (literal (text ++ "=")).language ↔
      ∃ head, head.map canonicalize = (units text).map canonicalize ∧ w = head ++ [padding] := by
    rw [mem_language_literal, units, String.toList_append, List.map_append, List.map_append,
      List.map_eq_append_iff]
    constructor
    · rintro ⟨head, last, rfl, same, ends⟩
      obtain ⟨u, rest, rfl, hu, empty⟩ := List.map_eq_cons_iff.1 ends
      rw [List.map_eq_nil_iff.1 empty, (canonicalize_eq_iff (by decide)).1 hu]
      exact ⟨head, same, rfl⟩
    · rintro ⟨head, same, rfl⟩
      exact ⟨head, [padding], rfl, same, rfl⟩
  constructor
  · rintro ⟨w, label, rfl⟩
    obtain sha | numbered := label
    · obtain ⟨head, same, rfl⟩ := (equals "sha256").1 sha
      exact ⟨head, .inl same, by simp⟩
    · obtain ⟨head, hv, w', hw', rfl⟩ := Pattern.mem_language_append.1 numbered
      obtain ⟨empty, same, rfl⟩ := (equals "").1 hw'
      obtain rfl := List.map_eq_nil_iff.1 same
      exact ⟨head, .inr (mem_language_version.1 hv), by simp⟩
  · rintro ⟨head, label, rfl⟩
    refine ⟨head ++ [padding], label.imp (fun same => (equals "sha256").2 ⟨head, same, rfl⟩) fun numbered => ?_, by simp⟩
    exact Pattern.mem_language_append.2 ⟨head, mem_language_version.2 numbered, [padding], (equals "").2 ⟨[], rfl, rfl⟩, rfl⟩

/-- A label ends where the text has its first `=`. -/
theorem takeWhile_label {head r : Text} (clear : padding ∉ head) :
    (head ++ padding :: r).takeWhile (· ≠ padding) = head := by
  have before : ∀ u ∈ head, decide (u ≠ padding) = true := fun u hu => decide_eq_true (ne_of_mem_of_not_mem hu clear)
  rw [List.takeWhile_append_of_pos before, List.takeWhile_cons_of_neg (by simp), List.append_nil]

theorem Prefixed.unique {t r r' : Text} (h : Prefixed t r) (h' : Prefixed t r') : r = r' := by
  obtain ⟨head, label, rfl⟩ := prefixed_iff.1 h
  obtain ⟨head', label', same⟩ := prefixed_iff.1 h'
  obtain rfl : head = head' := by rw [← takeWhile_label (r := r) label.clear, same, takeWhile_label label'.clear]
  exact (List.cons.inj (List.append_cancel_left same)).2

/-- In a part of the header, which has no comma, the prefix is removed if there is one. -/
theorem withoutPrefix_cases {t : Text} (clear : (44 : UInt16) ∉ t) :
    Prefixed t (withoutPrefix t) ∨ (∀ r, ¬Prefixed t r) ∧ withoutPrefix t = t := by
  unfold withoutPrefix
  cases found : prefixes.findSome? fun q => (Pattern.rests q t).head? with
  | some r =>
    obtain ⟨q, hq, hr⟩ := List.exists_of_findSome?_eq_some found
    obtain ⟨w, hw, same⟩ := Pattern.mem_rests.1 (List.mem_of_head? hr)
    simp only [prefixes, List.mem_cons, List.not_mem_nil, or_false] at hq
    obtain rfl | rfl | rfl := hq
    · exact .inl ⟨w, .inl hw, same⟩
    · exact .inl ⟨w, .inr hw, same⟩
    · obtain ⟨u, -, v, hv, rfl⟩ := Pattern.mem_language_append.1 hw
      obtain ⟨c, rest, rfl, hc, -⟩ := List.map_eq_cons_iff.1 (mem_language_literal.1 hv)
      obtain rfl : c = 44 := (canonicalize_eq_iff (by decide)).1 hc
      exact absurd (by simp [same]) clear
  | none =>
    refine .inr ⟨fun r h => ?_, rfl⟩
    obtain ⟨w, label, same⟩ := h
    have unmatched := List.findSome?_eq_none_iff.1 found
    obtain sha | numbered := label
    · have := unmatched (literal "sha256=") (by simp [prefixes])
      rw [List.head?_eq_none_iff] at this
      exact absurd (Pattern.mem_rests.2 ⟨w, sha, same⟩) (this ▸ List.not_mem_nil)
    · have := unmatched (version ++ literal "=") (by simp [prefixes])
      rw [List.head?_eq_none_iff] at this
      exact absurd (Pattern.mem_rests.2 ⟨w, numbered, same⟩) (this ▸ List.not_mem_nil)

/-! ## Labels that are encodings -/

theorem IsVersion.takeWhile {t : Text} (h : IsVersion t) : t.takeWhile (· ≠ padding) = t := by
  have clear := IsLabel.clear (.inr h)
  exact List.takeWhile_eq_self_iff.2 fun u hu => decide_eq_true (ne_of_mem_of_not_mem hu clear)

theorem Prefixed.takeWhile {t r : Text} (h : Prefixed t r) : IsLabel (t.takeWhile (· ≠ padding)) := by
  obtain ⟨head, label, rfl⟩ := prefixed_iff.1 h
  rw [takeWhile_label label.clear]
  exact label

/-- No label starts with a hexadecimal digit. -/
theorem IsLabel.not_hex {head : Text} (h : IsLabel head) : ∃ u ∈ head, hexDigit u = false := by
  have letter {u : UInt16} (hu : canonicalize u = 83 ∨ canonicalize u = 86) : hexDigit u = false := by
    unfold hexDigit digit canonicalize at *
    grind
  obtain same | ⟨v, ds, rfl, hv, -⟩ := h
  · obtain ⟨u, rest, rfl, hu, -⟩ := List.map_eq_cons_iff.1 same
    exact ⟨u, List.mem_cons_self, letter (.inl hu)⟩
  · exact ⟨v, List.mem_cons_self, letter (.inr hv)⟩

theorem sextet_of_version {u : UInt16} (h : canonicalize u = 86 ∨ digit u = true) : (sextet u).isSome := by
  unfold sextet digit canonicalize at *
  grind

/-- A label before the first `=` of an encoding is a `v` and 42 digits. -/
theorem Encodes.readsAsVersion {t : Text} {d : Digest} (h : Encodes t d) (label : IsLabel (t.takeWhile (· ≠ padding))) :
    ReadsAsVersion t := by
  obtain ⟨-, hex, -⟩ | same := h
  · obtain ⟨u, hu, other⟩ := label.not_hex
    rw [hex u ((List.takeWhile_sublist _).subset hu)] at other
    cases other
  · have long : ((t.takeWhile (· ≠ padding)).filterMap sextet).length = 43 := by
      have bytes := length_octets ((t.takeWhile (· ≠ padding)).filterMap sextet)
      rw [show octets _ = d.1 from same, d.2] at bytes
      omega
    obtain sha | ⟨v, ds, same, hv, -, digits⟩ := label
    · have short := List.length_filterMap_le sextet (t.takeWhile (· ≠ padding))
      have six : (t.takeWhile (· ≠ padding)).length = 6 := by
        rw [← List.length_map canonicalize, sha]
        rfl
      omega
    · have all : ((v :: ds).filterMap sextet).length = (v :: ds).length := by
        rw [List.filterMap_length_eq_length]
        exact List.forall_mem_cons.2 ⟨sextet_of_version (.inl hv), fun u hu => sextet_of_version (.inr (digits u hu))⟩
      rw [same, all, List.length_cons] at long
      exact ⟨v, ds, same, hv, by omega, digits⟩

/-- Such a text is a version marker, or has a prefix. -/
theorem ReadsAsVersion.isVersion_or_prefixed {t : Text} (h : ReadsAsVersion t) : IsVersion t ∨ ∃ r, Prefixed t r := by
  obtain ⟨v, ds, same, hv, long, digits⟩ := h
  have version : IsVersion (v :: ds) := ⟨v, ds, rfl, hv, List.ne_nil_of_length_eq_add_one long, digits⟩
  have split := List.takeWhile_append_dropWhile (p := (· ≠ padding)) (l := t)
  cases rest : t.dropWhile (· ≠ padding) with
  | nil =>
    rw [same, rest, List.append_nil] at split
    exact .inl (split ▸ version)
  | cons u r =>
    have stops := List.head?_dropWhile_not (· ≠ padding) t
    rw [rest, List.head?_cons] at stops
    obtain rfl : u = padding := of_not_not (of_decide_eq_false stops)
    rw [same, rest] at split
    exact .inr ⟨r, prefixed_iff.2 ⟨v :: ds, .inr version, split.symm⟩⟩

/-! ## What the code compares -/

theorem any_encodings {t : Text} {d : Digest} : ((encodings t).any fun candidate => candidate = d) = true ↔ Encodes t d := by
  have digits : (t.length = 64 ∧ t.all hexDigit = true) ↔ t.length = 64 ∧ ∀ u ∈ t, hexDigit u = true := by
    rw [List.all_eq_true]
  unfold encodings Encodes
  rw [List.any_append, Bool.or_eq_true]
  refine or_congr ?_ (by simp)
  by_cases hex : t.length = 64 ∧ t.all hexDigit = true
  · rw [if_pos hex]
    obtain ⟨long, all⟩ := digits.1 hex
    constructor
    · intro same
      exact ⟨long, all, by simpa using same⟩
    · intro h
      simpa using h.2.2
  · rw [if_neg hex]
    exact iff_of_false (by simp) fun h => hex (digits.2 ⟨h.1, h.2.1⟩)

theorem mem_secretCandidates {secret : Text} {key : Bytes} : key ∈ secretCandidates secret ↔ IsKey secret key := by
  rw [secretCandidates, List.mem_cons]
  refine or_congr Iff.rfl ?_
  by_cases starts : units "whsec_" <+: secret
  · rw [if_pos starts, List.mem_singleton]
    obtain ⟨text, rfl⟩ := starts
    have rest : (units "whsec_" ++ text).drop 6 = text := List.drop_left' (by decide)
    rw [rest]
    constructor
    · rintro rfl
      exact ⟨text, rfl, rfl⟩
    · rintro ⟨text', same, rfl⟩
      rw [List.append_cancel_left same]
  · rw [if_neg starts]
    refine iff_of_false List.not_mem_nil ?_
    rintro ⟨text, rfl, -⟩
    exact starts (List.prefix_append _ _)

theorem mem_suppliedSignatures {signature r : Text} :
    r ∈ suppliedSignatures signature ↔ ∃ part, IsPart separator signature part ∧ trim part ≠ [] ∧
      ¬IsVersion (trim part) ∧ withoutPrefix (trim part) = r := by
  simp only [suppliedSignatures, List.mem_map, List.mem_filter, mem_splitOnP, Bool.not_eq_true', ← Bool.not_eq_true,
    versionMarker_iff]
  constructor
  · rintro ⟨-, ⟨⟨⟨part, hp, rfl⟩, some_⟩, unmarked⟩, rfl⟩
    exact ⟨part, hp, of_decide_eq_true some_, unmarked, rfl⟩
  · rintro ⟨part, hp, some_, unmarked, rfl⟩
    exact ⟨trim part, ⟨⟨⟨part, hp, rfl⟩, decide_eq_true some_⟩, unmarked⟩, rfl⟩

theorem mem_of_mem_trim {t : Text} {u : UInt16} (h : u ∈ trim t) : u ∈ t := by
  have inner := (List.dropWhile_sublist _).subset (List.mem_reverse.1 h)
  exact (List.dropWhile_sublist _).subset (List.mem_reverse.1 inner)

theorem Encodes.ne_nil {t : Text} {d : Digest} (h : Encodes t d) : t ≠ [] := by
  rintro rfl
  obtain ⟨long, -⟩ | same := h
  · cases long
  · have bytes := d.2
    rw [← same] at bytes
    cases bytes

/-- What `digest('hex')` gives is an encoding. -/
theorem encodes_toHex (d : Digest) : Encodes (toHex d) d := by
  refine .inl ⟨?_, hexDigit_toHex d, fromHex_toHex d⟩
  rw [length_toHex, d.2]

/-- What `digest('base64')` gives is an encoding, with its padding or without. -/
theorem encodes_toBase64 (d : Digest) (k : Nat) : Encodes (toBase64 d ++ .replicate k padding) d :=
  .inr (fromBase64_toBase64 d k)

namespace BachsClient

variable {client : BachsClient} {secret signature timestamp : Text} {payload : Payload} {now : Nat}

/-- What the code makes of a part is what the part says, unless it only reads as a version. -/
theorem supplied_iff {part : Text} {d : Digest} (hp : IsPart separator signature part) :
    (trim part ≠ [] ∧ ¬IsVersion (trim part) ∧ Encodes (withoutPrefix (trim part)) d) ↔
      ∃ r, (r = trim part ∧ ¬ReadsAsVersion (trim part) ∨ Prefixed (trim part) r) ∧ Encodes r d := by
  have clear : (44 : UInt16) ∉ trim part := by
    intro comma
    cases hp.clear 44 (mem_of_mem_trim comma)
  constructor
  · rintro ⟨-, unmarked, encodes⟩
    obtain has | ⟨none_, same⟩ := withoutPrefix_cases clear
    · exact ⟨_, .inr has, encodes⟩
    · refine ⟨_, .inl ⟨same, fun reads => ?_⟩, encodes⟩
      obtain version | ⟨r, has⟩ := reads.isVersion_or_prefixed
      · exact unmarked version
      · exact none_ r has
  · rintro ⟨r, ⟨rfl, plain⟩ | has, encodes⟩
    · have unlabelled : ¬IsLabel ((trim part).takeWhile (· ≠ padding)) := fun label => plain (encodes.readsAsVersion label)
      refine ⟨encodes.ne_nil, fun version => unlabelled ?_, ?_⟩
      · rw [version.takeWhile]
        exact .inr version
      · obtain has | ⟨-, same⟩ := withoutPrefix_cases clear
        · exact absurd has.takeWhile unlabelled
        · rw [same]
          exact encodes
    · obtain ⟨head, label, same⟩ := prefixed_iff.1 has
      refine ⟨?_, fun version => ?_, ?_⟩
      · rw [same]
        exact List.append_ne_nil_of_right_ne_nil _ (List.cons_ne_nil _ _)
      · refine IsLabel.clear (.inr version) ?_
        rw [same]
        simp
      · obtain has' | ⟨none_, -⟩ := withoutPrefix_cases clear
        · rw [has'.unique has]
          exact encodes
        · exact absurd has (none_ r)

theorem isMatch_iff : client.isMatch secret payload signature timestamp = true ↔
    client.SignedPlainly secret payload signature timestamp := by
  simp only [isMatch, List.any_eq_true (l := secretCandidates secret), List.any_eq_true (l := suppliedSignatures signature),
    any_encodings, mem_secretCandidates, mem_suppliedSignatures]
  refine exists_congr fun key => and_congr Iff.rfl ?_
  constructor
  · rintro ⟨-, ⟨part, hp, some_, unmarked, rfl⟩, encodes⟩
    exact ⟨part, hp, (supplied_iff hp).1 ⟨some_, unmarked, encodes⟩⟩
  · rintro ⟨part, hp, told⟩
    obtain ⟨some_, unmarked, encodes⟩ := (supplied_iff hp).2 told
    exact ⟨_, ⟨part, hp, some_, unmarked, rfl⟩, encodes⟩

theorem fresh_iff : client.fresh now timestamp = true ↔
    ∃ seconds, number timestamp = some seconds ∧ |(now : ℚ) / 1000 - seconds| ≤ client.toleranceSeconds := by
  unfold fresh
  cases number timestamp with
  | none => simp
  | some seconds => simp

/-- A header with version markers, an old signature and the HMAC of 32 zeros. -/
def rotated : Text :=
  units "t0 v1,sha256=" ++ toHex (.replicate 32 7) ++ units ", v2,v1=" ++ toBase64 (.replicate 32 0) ++ units "="

def zeros : BachsClient where
  secret := some (units "whsec_a2V5")
  hmac _ _ := ⟨.replicate 32 0, rfl⟩

/-- The HMAC whose Base64 text is a `v` and 42 zeros. -/
def versionLike : BachsClient where
  secret := some (units "secret")
  hmac _ _ := ⟨fromBase64 (units "v000000000000000000000000000000000000000000"), by decide⟩

end BachsClient

end Heightt.Bachs
