/-
The fault that trust material is refused for.

Three files are read in turn, then a marker is searched in each of them in the same turn, then they are parsed. So every
fault is that of the first file that cannot be read, or one of the contents (`load_fault`); and every fault of contents
is that of the first without its marker, or one of parsing (`ofContent_fault`). The markers are texts in ASCII, and
searching the leniently read content for them is searching the bytes (`Text.infix_lenient_iff`), be they valid or not.

Main result: `TrustMaterial.load_refuses_first`.
-/
import Mathlib.Tactic
import LoadTrial.Proofs.Lenient
import LoadTrial.Trust.Material

namespace LoadTrial.TrustMaterial

/-! ## The turn of the parts -/

/-- the file that a part is read from -/
def Part.path (paths : TrustPaths) : Part → String
  | .caCert => paths.caCert
  | .clientCert => paths.clientCert
  | .clientKey => paths.clientKey

/-- the parts whose turn is before another one -/
def Part.earlier : Part → List Part
  | .caCert => []
  | .clientCert => [.caCert]
  | .clientKey => [.caCert, .clientCert]

/-- a part has something about it, and no part before it has -/
def Part.First (p : Part → Prop) (part : Part) : Prop := p part ∧ ∀ q ∈ part.earlier, ¬ p q

/-- either a part is the first, or none is -/
theorem Part.first_or_none (p : Part → Prop) : (∃ part, Part.First p part) ∨ ∀ part, ¬ p part := by
  by_cases hca : p .caCert
  · exact .inl ⟨.caCert, hca, nofun⟩
  by_cases hcert : p .clientCert
  · exact .inl ⟨.clientCert, hcert, by simpa [earlier] using hca⟩
  by_cases hkey : p .clientKey
  · exact .inl ⟨.clientKey, hkey, by simpa [earlier] using ⟨hca, hcert⟩⟩
  · refine .inr fun part => ?_
    cases part <;> assumption

/-! ## Markers -/

theorem Part.isAscii_marker (part : Part) : Text.IsAscii part.marker.toList := by
  cases part <;> decide

/-- the bytes of the marker of a part stand among those of a file -/
def Part.IsMarked (part : Part) (pem : Bytes) : Prop := Text.utf8 part.marker <:+: pem

theorem occursIn_marker_iff (part : Part) (pem : Bytes) :
    Text.occursIn part.marker.toList (Text.lenient pem) = true ↔ part.IsMarked pem := by
  rw [Text.occursIn_iff, Text.infix_lenient_iff part.isAscii_marker, ← Text.utf8_of_isAscii part.isAscii_marker,
    Part.IsMarked]

theorem requireMarker_of_marked {part : Part} {pem : Bytes} (h : part.IsMarked pem) :
    requireMarker part pem = .ok () :=
  if_pos ((occursIn_marker_iff part pem).2 h)

theorem requireMarker_of_unmarked {part : Part} {pem : Bytes} (h : ¬ part.IsMarked pem) :
    requireMarker part pem = .error (.noMarker part) :=
  if_neg fun hoccurs => h ((occursIn_marker_iff part pem).1 hoccurs)

/-- a file passes just if the bytes of the marker stand in it -/
theorem requireMarker_eq_ok_iff (part : Part) (pem : Bytes) : requireMarker part pem = .ok () ↔ part.IsMarked pem := by
  constructor
  · intro h
    by_contra hunmarked
    rw [requireMarker_of_unmarked hunmarked] at h
    cases h
  · exact requireMarker_of_marked

theorem requireMarker_eq_error_iff (part : Part) (pem : Bytes) :
    requireMarker part pem = .error (.noMarker part) ↔ ¬ part.IsMarked pem := by
  constructor
  · intro h hmarked
    rw [requireMarker_of_marked hmarked] at h
    cases h
  · exact requireMarker_of_unmarked

/-! ## From contents -/

/-- a pipeline fails at its first stage or behind it -/
theorem bind_eq_error {ε α β : Type} {x : Except ε α} {f : α → Except ε β} {e : ε} (h : (x >>= f) = .error e) :
    x = .error e ∨ ∃ a, x = .ok a ∧ f a = .error e := by
  cases x with
  | error _ =>
    cases h
    exact .inl rfl
  | ok a => exact .inr ⟨a, rfl, h⟩

section

variable {content : Part → Bytes}

/-- trust material from a content for each part -/
def ofContent (content : Part → Bytes) : Except Fault TrustMaterial :=
  ofPem (content .caCert) (content .clientCert) (content .clientKey)

/-- the first content without its marker is refused -/
theorem ofContent_of_unmarked {part : Part} (h : part.First fun q => ¬ q.IsMarked (content q)) :
    ofContent content = .error (.noMarker part) := by
  obtain ⟨hpart, hearlier⟩ := h
  have hmarked : ∀ q ∈ part.earlier, requireMarker q (content q) = .ok () :=
    fun q hq => requireMarker_of_marked (not_not.1 (hearlier q hq))
  have hrefused := requireMarker_of_unmarked hpart
  unfold ofContent ofPem
  cases part with
  | caCert =>
    rw [hrefused]
    rfl
  | clientCert =>
    rw [hmarked .caCert (by decide), hrefused]
    rfl
  | clientKey =>
    rw [hmarked .caCert (by decide), hmarked .clientCert (by decide), hrefused]
    rfl

/-- faults of what is behind the markers -/
def Fault.IsOfParsing (f : Fault) : Prop := f = .badRoots ∨ f = .noRoots ∨ f = .badIdentity

theorem readRoots_fault {pem : Bytes} {f : Fault} (h : readRoots pem = .error f) : f.IsOfParsing := by
  unfold readRoots at h
  split at h
  · cases h
    exact .inl rfl
  · dsimp only at h
    split_ifs at h
    cases h
    exact .inl rfl

theorem readIdentity_fault {pem : Bytes} {f : Fault} (h : readIdentity pem = .error f) : f.IsOfParsing := by
  have hf : f = .badIdentity := by
    unfold readIdentity at h
    split at h
    · cases h
      rfl
    · split_ifs at h
      · cases h
        rfl
      · dsimp only at h
        split at h
        · split_ifs at h
          cases h
          rfl
        · cases h
          rfl
  exact .inr (.inr hf)

/-- contents with their markers have faults of parsing only -/
theorem ofContent_of_marked (hmarked : ∀ part : Part, part.IsMarked (content part)) {f : Fault}
    (h : ofContent content = .error f) : f.IsOfParsing := by
  unfold ofContent ofPem at h
  rw [requireMarker_of_marked (hmarked .caCert), requireMarker_of_marked (hmarked .clientCert),
    requireMarker_of_marked (hmarked .clientKey)] at h
  obtain hroots | ⟨roots, -, h⟩ := bind_eq_error (x := readRoots _) h
  · exact readRoots_fault hroots
  dsimp only at h
  split_ifs at h
  · cases h
    exact .inr (.inl rfl)
  · obtain hidentity | ⟨identity, -, h⟩ := bind_eq_error h
    · exact readIdentity_fault hidentity
    · cases h

/-- every fault of contents is that of the first without its marker, or one of parsing -/
theorem ofContent_fault {f : Fault} (h : ofContent content = .error f) :
    (∃ part : Part, (part.First fun q => ¬ q.IsMarked (content q)) ∧ f = .noMarker part) ∨ f.IsOfParsing := by
  rcases Part.first_or_none fun q => ¬ q.IsMarked (content q) with ⟨part, hfirst⟩ | hmarked
  · rw [ofContent_of_unmarked hfirst] at h
    cases h
    exact .inl ⟨part, hfirst, rfl⟩
  · exact .inr (ofContent_of_marked (fun q => not_not.1 (hmarked q)) h)

/-- contents are refused for a marker just if its part is the first without -/
theorem ofContent_eq_noMarker_iff {part : Part} :
    ofContent content = .error (.noMarker part) ↔ part.First fun q => ¬ q.IsMarked (content q) := by
  refine ⟨fun h => ?_, ofContent_of_unmarked⟩
  obtain ⟨_, hfirst, ⟨⟩⟩ | hf := ofContent_fault h
  · exact hfirst
  · rcases hf with hf | hf | hf <;> cases hf

/-- no content is unreadable -/
theorem ofContent_ne_unreadable {part : Part} {path : String} {e : ReadError} :
    ofContent content ≠ .error (.unreadable part path e) := by
  intro h
  obtain ⟨_, -, ⟨⟩⟩ | hf := ofContent_fault h
  rcases hf with hf | hf | hf <;> cases hf

end

/-! ## From files -/

section

variable {files : Files} {paths : TrustPaths}

/-- the file of a part cannot be read -/
def Part.IsUnreadable (files : Files) (paths : TrustPaths) (part : Part) : Prop :=
  ∃ e, files.read (part.path paths) = .error e

/-- each part has a content, which is that of its file -/
def Part.Hold (files : Files) (paths : TrustPaths) (content : Part → Bytes) : Prop :=
  ∀ part : Part, files.read (part.path paths) = .ok (content part)

theorem readPart_of_ok {part : Part} {path : String} {bytes : Bytes} (h : files.read path = .ok bytes) :
    readPart files part path = .ok bytes := by
  rw [readPart, h]

theorem readPart_of_error {part : Part} {path : String} {e : ReadError} (h : files.read path = .error e) :
    readPart files part path = .error (.unreadable part path e) := by
  rw [readPart, h]

theorem Part.exists_of_not_isUnreadable {part : Part} (h : ¬ part.IsUnreadable files paths) :
    ∃ bytes, files.read (part.path paths) = .ok bytes := by
  cases hread : files.read (part.path paths) with
  | ok bytes => exact ⟨bytes, rfl⟩
  | error e => exact absurd ⟨e, hread⟩ h

theorem load_eq (files : Files) (paths : TrustPaths) :
    load files paths = (do
      let ca ← readPart files .caCert (Part.caCert.path paths)
      let cert ← readPart files .clientCert (Part.clientCert.path paths)
      let key ← readPart files .clientKey (Part.clientKey.path paths)
      ofPem ca cert key) :=
  rfl

/-- the first file that cannot be read is refused, with the error of reading it -/
theorem load_of_unreadable {part : Part} {e : ReadError} (hearlier : ∀ q ∈ part.earlier, ¬ q.IsUnreadable files paths)
    (h : files.read (part.path paths) = .error e) :
    load files paths = .error (.unreadable part (part.path paths) e) := by
  have hread : ∀ q ∈ part.earlier, ∃ bytes, readPart files q (q.path paths) = .ok bytes := by
    intro q hq
    obtain ⟨bytes, hbytes⟩ := Part.exists_of_not_isUnreadable (hearlier q hq)
    exact ⟨bytes, readPart_of_ok hbytes⟩
  have hrefused : readPart files part (part.path paths) = .error (.unreadable part (part.path paths) e) :=
    readPart_of_error h
  rw [load_eq]
  cases part with
  | caCert =>
    rw [hrefused]
    rfl
  | clientCert =>
    obtain ⟨ca, hca⟩ := hread .caCert (by decide)
    rw [hca, hrefused]
    rfl
  | clientKey =>
    obtain ⟨ca, hca⟩ := hread .caCert (by decide)
    obtain ⟨cert, hcert⟩ := hread .clientCert (by decide)
    rw [hca, hcert, hrefused]
    rfl

/-- where all files can be read, what is loaded is made of their contents -/
theorem load_of_hold {content : Part → Bytes} (h : Part.Hold files paths content) :
    load files paths = ofContent content := by
  rw [load_eq]
  rw [readPart_of_ok (h .caCert), readPart_of_ok (h .clientCert), readPart_of_ok (h .clientKey)]
  rfl

/-- every fault is that of the first file that cannot be read, or one of the contents of all files -/
theorem load_fault {f : Fault} (h : load files paths = .error f) :
    (∃ part e, Part.First (Part.IsUnreadable files paths) part ∧ files.read (part.path paths) = .error e ∧
      f = .unreadable part (part.path paths) e) ∨
    ∃ content, Part.Hold files paths content ∧ ofContent content = .error f := by
  rcases Part.first_or_none (Part.IsUnreadable files paths) with ⟨part, ⟨e, he⟩, hearlier⟩ | hreadable
  · rw [load_of_unreadable hearlier he] at h
    cases h
    exact .inl ⟨part, e, ⟨⟨e, he⟩, hearlier⟩, he, rfl⟩
  · choose content hold using fun part => Part.exists_of_not_isUnreadable (hreadable part)
    rw [load_of_hold hold] at h
    exact .inr ⟨content, hold, h⟩

/-- trust material is refused for a file that cannot be read just if this is the first one -/
theorem load_eq_unreadable_iff {part : Part} {path : String} {e : ReadError} :
    load files paths = .error (.unreadable part path e) ↔
      part.First (Part.IsUnreadable files paths) ∧ path = part.path paths ∧ files.read path = .error e := by
  constructor
  · intro h
    obtain ⟨_, _, hfirst, he, ⟨⟩⟩ | ⟨content, -, hcontent⟩ := load_fault h
    · exact ⟨hfirst, rfl, he⟩
    · exact absurd hcontent ofContent_ne_unreadable
  · rintro ⟨⟨-, hearlier⟩, rfl, he⟩
    exact load_of_unreadable hearlier he

/-- trust material is refused for a marker just if all files can be read and one is the first without its marker -/
theorem load_eq_noMarker_iff {part : Part} :
    load files paths = .error (.noMarker part) ↔
      ∃ content, Part.Hold files paths content ∧ part.First fun q => ¬ q.IsMarked (content q) := by
  constructor
  · intro h
    obtain ⟨_, _, -, -, ⟨⟩⟩ | ⟨content, hold, hcontent⟩ := load_fault h
    exact ⟨content, hold, ofContent_eq_noMarker_iff.1 hcontent⟩
  · rintro ⟨content, hold, hfirst⟩
    rw [load_of_hold hold]
    exact ofContent_of_unmarked hfirst

end

/-- A file passes the search for the marker of its part just if the bytes of the marker stand in it, and is refused for
its part otherwise. Trust material is refused for a file that cannot be read just if this is the first one, and for a
marker just if all files can be read and this is the first file without its marker. Either way the failure is one of the
transport and names the part. -/
theorem load_refuses_first (files : Files) (paths : TrustPaths) :
    (∀ (part : Part) (pem : Bytes),
      (requireMarker part pem = .ok () ↔ Text.utf8 part.marker <:+: pem) ∧
      (requireMarker part pem = .error (.noMarker part) ↔ ¬ Text.utf8 part.marker <:+: pem)) ∧
    (∀ (part : Part) (path : String) (e : ReadError),
      load files paths = .error (.unreadable part path e) ↔
        part.First (Part.IsUnreadable files paths) ∧ path = part.path paths ∧ files.read path = .error e) ∧
    (∀ part : Part, load files paths = .error (.noMarker part) ↔
      ∃ content, Part.Hold files paths content ∧ part.First fun q => ¬ Text.utf8 q.marker <:+: content q) ∧
    (∀ (part : Part) (path : String) (e : ReadError), (Fault.unreadable part path e).failure =
      .tls ("Failed to read " ++ part.name ++ " '" ++ path ++ "': " ++ e.message)) ∧
    ∀ part : Part, (Fault.noMarker part).failure =
      .tls (part.name ++ " is not PEM encoded (missing '" ++ part.marker ++ "')") :=
  ⟨fun part pem => ⟨requireMarker_eq_ok_iff part pem, requireMarker_eq_error_iff part pem⟩,
    fun _ _ _ => load_eq_unreadable_iff, fun _ => load_eq_noMarker_iff, fun _ _ _ => rfl, fun _ => rfl⟩

end LoadTrial.TrustMaterial
