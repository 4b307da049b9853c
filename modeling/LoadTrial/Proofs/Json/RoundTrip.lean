/-
A printed document is read back.

`Plain n j` says that a document holds no doubles, that its integers have 64 bits, and that its arrays and objects are
nested no deeper than `n`. Such a document is read back from its indented text, to the last string and number, as long
as the reader follows so deep (`read_pretty`). The induction is on `Plain`; the state that the reader must be in behind
a value is told by `accept`, so what is open around the value does not matter.
-/
import Mathlib.Tactic
import LoadTrial.Proofs.Json.Reading

namespace LoadTrial.Json

/-- a document without doubles, with integers of 64 bits, nested at most so deep -/
inductive Plain : Nat → Json → Prop
  | null (n : Nat) : Plain n .null
  | bool (n : Nat) (b : Bool) : Plain n (.bool b)
  | integer (n : Nat) {k : Int} (h : IsWord k) : Plain n (.integer k)
  | string (n : Nat) (s : String) : Plain n (.string s)
  | array {n : Nat} {items : List Json} (h : ∀ item ∈ items, Plain n item) : Plain (n + 1) (.array items)
  | object {n : Nat} {fields : List (String × Json)} (h : ∀ field ∈ fields, Plain n field.2) :
      Plain (n + 1) (.object fields)

/-! ## What stands behind a value -/

theorem endsNumber_newline (level : Nat) (rest : List Char) : EndsNumber (newline level ++ rest) :=
  endsNumber_cons rfl _

theorem endsNumber_items (level : Nat) (items : List Json) {rest : List Char} (h : EndsNumber rest) :
    EndsNumber (prettyItems level items ++ rest) := by
  cases items with
  | nil => simpa [prettyItems] using h
  | cons item items =>
    rw [prettyItems]
    exact endsNumber_cons rfl _

theorem endsNumber_fields (level : Nat) (fields : List (String × Json)) {rest : List Char} (h : EndsNumber rest) :
    EndsNumber (prettyFields level fields ++ rest) := by
  cases fields with
  | nil => simpa [prettyFields] using h
  | cons field fields =>
    rw [prettyFields]
    exact endsNumber_cons rfl _

/-! ## Arrays -/

section Arrays

variable {frames : List Frame} {level : Nat}

theorem readsClosed_items {items : List Json} (done : List Json)
    (h : ∀ item ∈ items, ∀ done, ReadsValue (.array done :: frames) (prettyAt level item) item) :
    ReadsClosed ⟨.array done :: frames, .between .more⟩ (prettyItems level items)
      ⟨.array (items.reverse ++ done) :: frames, .between .more⟩ := by
  induction items generalizing done with
  | nil =>
    rw [prettyItems]
    exact (Reads.nil _).closed
  | cons item items ih =>
    have hitem := h item List.mem_cons_self done .nextItem trivial
    have hitems := ih (item :: done) fun other hother => h other (List.mem_cons_of_mem _ hother)
    have hcomma : Reads ⟨.array done :: frames, .between .more⟩ [',']
        ⟨.array done :: frames, .between .nextItem⟩ := .single rfl
    have hfront := hcomma.append (reads_newline (.array done :: frames) .nextItem level)
    have hall := hfront.andThen (hitem.append hitems fun _ => endsNumber_items level items)
    rw [prettyItems, List.reverse_cons, List.append_assoc]
    simpa using hall

theorem reads_close_array (items : List Json) :
    Reads ⟨.array items :: frames, .between .more⟩ [']'] (.between (accept frames (.array items.reverse))) :=
  .single rfl

theorem readsValue_array {items : List Json} (hdepth : frames.length < depthLimit)
    (h : ∀ item ∈ items, ∀ done, ReadsValue (.array done :: frames) (prettyAt (level + 1) item) item) :
    ReadsValue frames (prettyAt level (.array items)) (.array items) := by
  intro awaited hawaited
  have hopen : Reads ⟨frames, .between awaited⟩ ['['] ⟨.array [] :: frames, .between .firstItem⟩ := by
    refine .single ?_
    rw [step_between hawaited rfl (by decide)]
    simp [openValue, hdepth]
  cases items with
  | nil =>
    rw [prettyAt]
    exact (hopen.append (.single rfl)).closed
  | cons item items =>
    have hitem := h item List.mem_cons_self [] .firstItem trivial
    have hitems := readsClosed_items [item] fun other hother => h other (List.mem_cons_of_mem _ hother)
    have hend := (reads_newline (.array (items.reverse ++ [item]) :: frames) .more level).append (reads_close_array _)
    have hfront := hopen.append (reads_newline (.array [] :: frames) .firstItem (level + 1))
    have hback := hitems.append hend.closed fun rest _ => by
      rw [List.append_assoc]
      exact endsNumber_newline level _
    have hall := hfront.andThen (hitem.append hback fun rest hrest => by
      rw [List.append_assoc]
      exact endsNumber_items _ _ (by rw [List.append_assoc]; exact endsNumber_newline level _))
    rw [prettyAt]
    simpa using hall

end Arrays

/-! ## Objects -/

section Objects

variable {frames : List Frame} {level : Nat}

/-- a field, from its key to the end of its value -/
theorem readsClosed_field {awaited : Awaited} {done : List (String × Json)} {name : String} {value : Json}
    (hkey : awaited = .firstKey done ∨ awaited = .nextKey done)
    (h : ReadsValue (.object done name :: frames) (prettyAt level value) value) :
    ReadsClosed ⟨frames, .between awaited⟩ (newline level ++ quoted name ++ [':', ' '] ++ prettyAt level value)
      ⟨.object ((name, value) :: done) name :: frames, .between .more⟩ := by
  have hname := (reads_newline frames awaited level).append (reads_key hkey name)
  have hcolon : Reads ⟨.object done name :: frames, .between .colon⟩ [':', ' ']
      ⟨.object done name :: frames, .between .value⟩ := .cons rfl (.single rfl)
  exact (hname.append hcolon).andThen (h .value trivial)

theorem readsClosed_fields {fields : List (String × Json)} (done : List (String × Json)) (last : String)
    (h : ∀ field ∈ fields, ∀ done,
      ReadsValue (.object done field.1 :: frames) (prettyAt level field.2) field.2) :
    ∃ last', ReadsClosed ⟨.object done last :: frames, .between .more⟩ (prettyFields level fields)
      ⟨.object (fields.reverse ++ done) last' :: frames, .between .more⟩ := by
  induction fields generalizing done last with
  | nil =>
    rw [prettyFields]
    exact ⟨last, (Reads.nil _).closed⟩
  | cons field fields ih =>
    obtain ⟨name, value⟩ := field
    obtain ⟨last', hfields⟩ := ih ((name, value) :: done) name fun other hother => h other (List.mem_cons_of_mem _ hother)
    have hfield := readsClosed_field (.inr rfl) (h (name, value) List.mem_cons_self done)
    have hcomma : Reads ⟨.object done last :: frames, .between .more⟩ [','] ⟨frames, .between (.nextKey done)⟩ :=
      .single rfl
    have hall := hcomma.andThen (hfield.append hfields fun _ => endsNumber_fields level fields)
    refine ⟨last', ?_⟩
    rw [prettyFields, List.reverse_cons, List.append_assoc]
    simpa using hall

theorem reads_close_object (fields : List (String × Json)) (last : String) :
    Reads ⟨.object fields last :: frames, .between .more⟩ ['}']
      (.between (accept frames (.object fields.reverse))) :=
  .single rfl

theorem readsValue_object {fields : List (String × Json)} (hdepth : frames.length < depthLimit)
    (h : ∀ field ∈ fields, ∀ done,
      ReadsValue (.object done field.1 :: frames) (prettyAt (level + 1) field.2) field.2) :
    ReadsValue frames (prettyAt level (.object fields)) (.object fields) := by
  intro awaited hawaited
  have hopen : Reads ⟨frames, .between awaited⟩ ['{'] ⟨frames, .between (.firstKey [])⟩ := by
    refine .single ?_
    rw [step_between hawaited rfl (by decide)]
    simp [openValue, hdepth]
  cases fields with
  | nil =>
    rw [prettyAt]
    exact (hopen.append (.single rfl)).closed
  | cons field fields =>
    obtain ⟨name, value⟩ := field
    have hfield := hopen.andThen (readsClosed_field (.inl rfl) (h (name, value) List.mem_cons_self []))
    obtain ⟨last, hfields⟩ := readsClosed_fields [(name, value)] name
      fun other hother => h other (List.mem_cons_of_mem _ hother)
    have hend := (reads_newline (.object (fields.reverse ++ [(name, value)]) last :: frames) .more level).append
      (reads_close_object _ _)
    have hback := hfields.append hend.closed fun rest _ => by
      rw [List.append_assoc]
      exact endsNumber_newline level _
    have hall := hfield.append hback fun rest hrest => by
      rw [List.append_assoc]
      exact endsNumber_fields _ _ (by rw [List.append_assoc]; exact endsNumber_newline level _)
    rw [prettyAt]
    simpa using hall

end Objects

/-! ## Documents -/

/-- a plain document is read as a value at every level, as long as its depth is left -/
theorem Plain.readsValue {n : Nat} {j : Json} (h : Plain n j) (level : Nat) (frames : List Frame)
    (hdepth : frames.length + n ≤ depthLimit) : ReadsValue frames (prettyAt level j) j := by
  induction h generalizing level frames with
  | null n =>
    rw [prettyAt]
    exact readsValue_null frames
  | bool n b => exact readsValue_bool frames b level
  | integer n hword =>
    rw [prettyAt]
    exact readsValue_integer frames hword
  | string n s =>
    rw [prettyAt]
    exact readsValue_string frames s
  | array _ ih =>
    refine readsValue_array (by omega) fun item hitem done => ih item hitem _ _ ?_
    rw [List.length_cons]
    omega
  | object _ ih =>
    refine readsValue_object (by omega) fun field hfield done => ih field hfield _ _ ?_
    rw [List.length_cons]
    omega

/-- a plain document is read back from its indented text -/
theorem read_pretty {n : Nat} {j : Json} (h : Plain n j) (hdepth : n ≤ depthLimit) : read (pretty j) = .ok j := by
  have hvalue := h.readsValue 0 [] (by rw [List.length_nil]; omega) .value trivial
  obtain ⟨position, hread⟩ := hvalue ⟨1, 0⟩ [] endsNumber_nil
  rw [List.append_nil] at hread
  rw [read, pretty, String.toList_ofList, State.initial, hread]
  rfl

end LoadTrial.Json
