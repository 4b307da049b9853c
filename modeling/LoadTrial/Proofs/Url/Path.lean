/-
Paths with something behind them.

The segments of a path that others follow are finished one by one (`Path.finish`, `collect_append`); only the last one
is open. So a path with a slash behind it is the same whatever is appended to the slash: a plain rest, without dots and
without anything to be encoded, stands behind it as it is (`parsePath_append`). Slashes at the end of a path lose
nothing but themselves (`stripSlashes_parsePath`).
-/
import Mathlib.Data.List.TakeWhile
import Mathlib.Tactic
import LoadTrial.Url.Parser

namespace LoadTrial.Url

/-! ## Splitting -/

section Splitting

variable (c : Char) (cs ds : List Char)

theorem splitOn_ne_nil : splitOn c cs ≠ [] := by
  cases cs with
  | nil => exact List.cons_ne_nil _ _
  | cons x xs =>
    rw [splitOn]
    split_ifs
    · exact List.cons_ne_nil _ _
    · split <;> exact List.cons_ne_nil _ _

theorem splitOn_cons_self : splitOn c (c :: cs) = [] :: splitOn c cs := by
  rw [splitOn, if_pos (beq_self_eq_true c)]

theorem splitOn_cons_of_ne {x : Char} (hx : x ≠ c) :
    ∃ piece pieces, splitOn c cs = piece :: pieces ∧ splitOn c (x :: cs) = (x :: piece) :: pieces := by
  have hbeq : ¬(x == c) = true := by simpa using hx
  rcases hsplit : splitOn c cs with _ | ⟨piece, pieces⟩
  · exact absurd hsplit (splitOn_ne_nil c cs)
  · exact ⟨piece, pieces, rfl, by rw [splitOn, if_neg hbeq, hsplit]⟩

/-- a text is split at an occurrence of the character into what stands on its two sides -/
theorem splitOn_append : splitOn c (cs ++ c :: ds) = splitOn c cs ++ splitOn c ds := by
  induction cs with
  | nil => exact splitOn_cons_self c ds
  | cons x xs ih =>
    by_cases hx : x = c
    · subst hx
      rw [List.cons_append, splitOn_cons_self, ih, splitOn_cons_self, List.cons_append]
    · obtain ⟨piece, pieces, hxs, hcons⟩ := splitOn_cons_of_ne c xs hx
      obtain ⟨piece', pieces', hall, hcons'⟩ := splitOn_cons_of_ne c (xs ++ c :: ds) hx
      rw [ih, hxs, List.cons_append] at hall
      cases hall
      rw [List.cons_append, hcons', hcons, List.cons_append]

/-- the pieces, joined again -/
theorem joinWith_splitOn : Domain.joinWith c (splitOn c cs) = cs := by
  induction cs with
  | nil => rfl
  | cons x xs ih =>
    by_cases hx : x = c
    · subst hx
      rw [splitOn_cons_self]
      rcases hsplit : splitOn x xs with _ | ⟨piece, pieces⟩
      · exact absurd hsplit (splitOn_ne_nil x xs)
      · rw [hsplit] at ih
        conv_rhs => rw [← ih]
        rfl
    · obtain ⟨piece, pieces, hxs, hcons⟩ := splitOn_cons_of_ne c xs hx
      rw [hxs] at ih
      rw [hcons, ← ih]
      cases pieces <;> rfl

end Splitting

namespace Path

/-! ## Finished segments -/

/-- a segment that is not the last one of its path -/
def finishOne (finished : List (List Char)) (segment : List Char) : List (List Char) :=
  if isDoubleDot segment then pop finished
  else if isSingleDot segment then finished
  else segment :: finished

/-- some segments, none of which is the last one of its path -/
def finish (finished segments : List (List Char)) : List (List Char) :=
  segments.foldl finishOne finished

theorem collect_cons (finished : List (List Char)) (segment : List Char) {rest : List (List Char)} (h : rest ≠ []) :
    collect finished (segment :: rest) = collect (finishOne finished segment) rest := by
  rcases rest with _ | ⟨next, more⟩
  · exact absurd rfl h
  · rw [collect, finishOne]
    · split_ifs <;> rfl
    · rintro ⟨⟩

theorem collect_append (finished segments : List (List Char)) {rest : List (List Char)} (h : rest ≠ []) :
    collect finished (segments ++ rest) = collect (finish finished segments) rest := by
  induction segments generalizing finished with
  | nil => rfl
  | cons segment segments ih =>
    have hne : segments ++ rest ≠ [] := by
      intro hnil
      exact h (List.append_eq_nil_iff.1 hnil).2
    rw [List.cons_append, collect_cons finished segment hne, ih]
    rfl

/-- a segment that is no dots -/
def IsName (segment : List Char) : Prop :=
  isDoubleDot segment = false ∧ isSingleDot segment = false

theorem finishOne_of_isName {segment : List Char} (h : IsName segment) (finished : List (List Char)) :
    finishOne finished segment = segment :: finished := by
  rw [finishOne, h.1, h.2]
  rfl

theorem collect_single_of_isName {segment : List Char} (h : IsName segment) (finished : List (List Char)) :
    collect finished [segment] = (finished, segment) := by
  rw [collect, h.1, h.2]
  rfl

/-- a path that ends in a slash -/
def closed (finished : List (List Char)) : List Char :=
  render (finished, [])

theorem render_eq (finished : List (List Char)) (last : List Char) :
    render (finished, last) = closed finished ++ last := by
  simp [closed, render]

theorem closed_cons (segment : List Char) (finished : List (List Char)) :
    closed (segment :: finished) = closed finished ++ segment ++ ['/'] := by
  simp [closed, render]

/-- names behind a slash stay as they are -/
theorem render_collect_of_names (finished : List (List Char)) {names : List (List Char)} (hne : names ≠ [])
    (h : ∀ name ∈ names, IsName name) :
    render (collect finished names) = closed finished ++ Domain.joinWith '/' names := by
  induction names generalizing finished with
  | nil => exact absurd rfl hne
  | cons name names ih =>
    obtain ⟨hname, hnames⟩ := List.forall_mem_cons.1 h
    rcases names with _ | ⟨next, more⟩
    · rw [collect_single_of_isName hname, render_eq]
      simp [Domain.joinWith]
    · rw [collect_cons finished name (List.cons_ne_nil _ _), finishOne_of_isName hname,
        ih (name :: finished) (List.cons_ne_nil _ _) hnames, closed_cons]
      simp [Domain.joinWith]

/-- an open segment that is finished: nothing is added but a slash, if it is no dots -/
theorem closed_finishOne (finished : List (List Char)) (last : List Char) :
    closed (finishOne finished last) = render (collect finished [last]) ∨
      closed (finishOne finished last) = render (collect finished [last]) ++ ['/'] := by
  rw [finishOne, collect]
  split_ifs
  · exact .inl rfl
  · exact .inl rfl
  · exact .inr (by rw [closed_cons, render_eq])

end Path

/-! ## Plain texts -/

/-- a text that stands in a path as it is written, without dots and blanks -/
structure Plain (cs : List Char) : Prop where
  character : ∀ c ∈ cs, endsPath c = false ∧ c ≠ '\\' ∧ isEdge c = false
  encoded : (splitOn '/' cs).map (percentEncode pathSet) = splitOn '/' cs
  name : ∀ segment ∈ splitOn '/' cs, Path.IsName segment

theorem plain_iff {cs : List Char} : Plain cs ↔
    (cs.all (fun c => !endsPath c && c != '\\' && !isEdge c) = true ∧
      (splitOn '/' cs).map (percentEncode pathSet) = splitOn '/' cs) ∧
      (splitOn '/' cs).all (fun segment => !Path.isDoubleDot segment && !Path.isSingleDot segment) = true := by
  simp only [List.all_eq_true, Bool.and_eq_true, Bool.not_eq_true', bne_iff_ne]
  constructor
  · intro h
    exact ⟨⟨fun c hc => ⟨⟨(h.character c hc).1, (h.character c hc).2.1⟩, (h.character c hc).2.2⟩, h.encoded⟩, h.name⟩
  · rintro ⟨⟨hcharacter, hencoded⟩, hname⟩
    exact ⟨fun c hc => ⟨(hcharacter c hc).1.1, (hcharacter c hc).1.2, (hcharacter c hc).2⟩, hencoded, hname⟩

instance (cs : List Char) : Decidable (Plain cs) :=
  decidable_of_iff _ plain_iff.symm

theorem plain_nil : Plain [] := by
  decide

theorem plain_replicate (k : Nat) : Plain (List.replicate k '/') := by
  have hsplit : splitOn '/' (List.replicate k '/') = List.replicate (k + 1) [] := by
    induction k with
    | zero => rfl
    | succ k ih =>
      rw [List.replicate_succ, splitOn_cons_self, ih]
      rfl
  refine ⟨fun c hc => ?_, ?_, fun segment hsegment => ?_⟩
  · rw [List.eq_of_mem_replicate hc]
    decide
  · rw [hsplit, List.map_replicate]
    rfl
  · rw [hsplit] at hsegment
    rw [List.eq_of_mem_replicate hsegment]
    exact ⟨rfl, rfl⟩

/-! ## Paths as they are written -/

/-- the path of a special URL, as it is written: nothing, or a slash or backslash and what follows it -/
structure PathText (cs : List Char) : Prop where
  slash : ∀ c ∈ cs.head?, isSlash true c = true
  character : ∀ c ∈ cs, endsPath c = false

/-- the finished segments of a path that goes on behind a slash -/
def finishedSegments (cs : List Char) : List (List Char) :=
  match cs with
  | [] => []
  | _ :: rest => Path.finish [] ((segments true rest).map (percentEncode pathSet))

variable {cs v : List Char}

/-- backslashes are slashes -/
def slashed (cs : List Char) : List Char :=
  cs.map fun c => if true && c == '\\' then '/' else c

theorem segments_eq (h : ∀ c ∈ cs, endsPath c = false) : segments true cs = splitOn '/' (slashed cs) := by
  have hall : cs.takeWhile (!endsPath ·) = cs := List.takeWhile_eq_self_iff.2 fun c hc => by simp [h c hc]
  rw [segments, hall]
  rfl

theorem slashed_of_plain (hv : Plain v) : slashed v = v := by
  have hsame : ∀ c ∈ v, (if true && c == '\\' then '/' else c) = c := by
    intro c hc
    have hbackslash := (hv.character c hc).2.1
    simp [hbackslash]
  rw [slashed, List.map_congr_left hsame, List.map_id']

theorem segments_append (hcs : ∀ c ∈ cs, endsPath c = false) (hv : Plain v) :
    segments true (cs ++ '/' :: v) = segments true cs ++ splitOn '/' v := by
  have hall : ∀ c ∈ cs ++ '/' :: v, endsPath c = false := by
    intro c hc
    rcases List.mem_append.1 hc with hc | hc
    · exact hcs c hc
    · rcases List.mem_cons.1 hc with rfl | hc
      · decide
      · exact (hv.character c hc).1
  have hslashed : slashed (cs ++ '/' :: v) = slashed cs ++ '/' :: v := by
    have hrest := slashed_of_plain hv
    simp only [slashed, List.map_append, List.map_cons] at hrest ⊢
    rw [hrest]
    rfl
  rw [segments_eq hall, hslashed, splitOn_append, segments_eq hcs]

theorem parsePath_slash {a : Char} {rest : List Char} (ha : isSlash true a = true) (hends : endsPath a = false) :
    parsePath true (a :: rest) = Path.normalize (segments true rest) := by
  simp [parsePath, ha, hends]

/-- what is plain stands in a path as it is, behind a slash -/
theorem parsePath_append (hcs : PathText cs) (hv : Plain v) :
    parsePath true (cs ++ '/' :: v) = Path.closed (finishedSegments cs) ++ v := by
  have hplain (finished : List (List Char)) :
      Path.render (Path.collect finished ((splitOn '/' v).map (percentEncode pathSet))) =
        Path.closed finished ++ v := by
    rw [hv.encoded, Path.render_collect_of_names finished (splitOn_ne_nil '/' v) hv.name, joinWith_splitOn]
  cases cs with
  | nil =>
    have hsegments : segments true v = splitOn '/' v := by
      rw [segments_eq fun c hc => (hv.character c hc).1, slashed_of_plain hv]
    rw [List.nil_append, parsePath_slash rfl rfl, hsegments]
    exact hplain []
  | cons a rest =>
    have hne : (splitOn '/' v).map (percentEncode pathSet) ≠ [] := by
      rw [hv.encoded]
      exact splitOn_ne_nil '/' v
    obtain ⟨ha, hrest⟩ := List.forall_mem_cons.1 hcs.character
    rw [List.cons_append, parsePath_slash (hcs.slash a rfl) ha, segments_append hrest hv, Path.normalize,
      List.map_append, Path.collect_append [] _ hne]
    exact hplain _

/-- a slash behind a path adds nothing but itself, if anything -/
theorem closed_finishedSegments (hcs : PathText cs) :
    Path.closed (finishedSegments cs) = parsePath true cs ∨
      Path.closed (finishedSegments cs) = parsePath true cs ++ ['/'] := by
  cases cs with
  | nil => exact .inl rfl
  | cons a rest =>
    obtain ⟨ha, hrest⟩ := List.forall_mem_cons.1 hcs.character
    have hne : (segments true rest).map (percentEncode pathSet) ≠ [] := by
      rw [segments_eq hrest]
      simpa using splitOn_ne_nil '/' (slashed rest)
    obtain ⟨front, last, hsplit⟩ := (List.eq_nil_or_concat' _).resolve_left hne
    have hfinish : Path.finish [] (front ++ [last]) = Path.finishOne (Path.finish [] front) last := by
      rw [Path.finish, List.foldl_append]
      rfl
    rw [parsePath_slash (hcs.slash a rfl) ha, finishedSegments, Path.normalize, hsplit, hfinish,
      Path.collect_append [] front (List.cons_ne_nil _ _)]
    exact Path.closed_finishOne _ last

/-! ## Slashes at the end -/

/-- a path without the slashes at its end -/
def stripSlashes (cs : List Char) : List Char :=
  Text.dropTail (· == '/') cs

theorem stripSlashes_append_slashes (cs : List Char) (k : Nat) :
    stripSlashes (cs ++ List.replicate k '/') = stripSlashes cs :=
  Text.dropTail_append_replicate _ cs _ fun c hc => by simp [List.eq_of_mem_replicate hc]

theorem stripSlashes_concat (cs : List Char) : stripSlashes (cs ++ ['/']) = stripSlashes cs :=
  stripSlashes_append_slashes cs 1

theorem stripSlashes_concat_of_ne (cs : List Char) {c : Char} (hc : c ≠ '/') :
    stripSlashes (cs ++ [c]) = cs ++ [c] := by
  simp [stripSlashes, Text.dropTail, hc]

theorem length_stripSlashes_le (cs : List Char) : (stripSlashes cs).length ≤ cs.length := by
  rw [stripSlashes, Text.dropTail, List.length_reverse]
  simpa using (List.dropWhile_sublist (p := (· == '/')) (l := cs.reverse)).length_le

/-- slashes at the end of a path lose nothing but themselves -/
theorem stripSlashes_parsePath (hcs : PathText cs) (k : Nat) :
    stripSlashes (parsePath true (cs ++ List.replicate k '/')) = stripSlashes (Path.closed (finishedSegments cs)) := by
  cases k with
  | zero =>
    rw [List.replicate_zero, List.append_nil]
    rcases closed_finishedSegments hcs with h | h
    · rw [h]
    · rw [h]
      exact (stripSlashes_concat _).symm
  | succ k =>
    rw [List.replicate_succ, parsePath_append hcs (plain_replicate k), stripSlashes_append_slashes]

theorem closed_eq_concat (finished : List (List Char)) : ∃ front, Path.closed finished = front ++ ['/'] := by
  cases finished with
  | nil => exact ⟨[], rfl⟩
  | cons segment finished => exact ⟨Path.closed finished ++ segment, Path.closed_cons segment finished⟩

/-- what is appended to a path stands behind one slash, unless more of them were left at its end -/
theorem append_eq_stripSlashes_iff (finished : List (List Char)) (v : List Char) :
    Path.closed finished ++ v = stripSlashes (Path.closed finished) ++ '/' :: v ↔
      ¬['/', '/'] <:+ Path.closed finished := by
  obtain ⟨front, hclosed⟩ := closed_eq_concat finished
  have hfront : front ++ ['/'] ++ v = stripSlashes front ++ '/' :: v ↔ front = stripSlashes front := by
    rw [List.append_assoc, List.singleton_append, List.append_left_inj]
  rw [hclosed, stripSlashes_concat, hfront]
  rcases List.eq_nil_or_concat' front with rfl | ⟨more, c, rfl⟩
  · exact iff_of_true rfl fun h => absurd h.length_le (by decide)
  · by_cases hc : c = '/'
    · subst hc
      have hshorter : more ++ ['/'] ≠ stripSlashes (more ++ ['/']) := by
        rw [stripSlashes_concat]
        intro heq
        have hlength := congrArg List.length heq
        have hle := length_stripSlashes_le more
        rw [List.length_append, List.length_singleton] at hlength
        omega
      exact iff_of_false hshorter (not_not.2 ⟨more, by simp⟩)
    · rw [stripSlashes_concat_of_ne more hc]
      refine iff_of_true rfl ?_
      rintro ⟨other, hother⟩
      have hlast := congrArg (List.take 1 ∘ List.drop 1 ∘ List.reverse) hother
      simp [eq_comm, hc] at hlast

end LoadTrial.Url
