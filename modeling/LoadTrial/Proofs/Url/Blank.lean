/-
Blanks inside a URL.

A blank that ends up behind the host or port of a URL spoils it (`readPlace_of_blank`). One that ends up in a path is
written there as an escape, and a segment with an escape like that in it is no dots (`isName_of_blank`): so a path with
blanks and more behind it is longer than the two one behind the other (`length_parsePath_blank`).
-/
import LoadTrial.Proofs.Url.Authority
import LoadTrial.Proofs.Url.HostName

namespace LoadTrial.Url

/-! ## Behind hosts and ports -/

theorem hostPart_behind (inBrackets : Bool) (cs : List Char) :
    (hostPart inBrackets cs).2 = [] ∨ ∃ port, (hostPart inBrackets cs).2 = ':' :: port := by
  induction cs generalizing inBrackets with
  | nil => exact .inl rfl
  | cons c rest ih =>
    rw [hostPart]
    split_ifs with hcolon
    · simp only [Bool.and_eq_true, beq_iff_eq] at hcolon
      exact .inr ⟨rest, by rw [hcolon.1]⟩
    · exact ih _

variable {c : Char}

theorem placeOf_concat (hc : c ≠ '@') (cs : List Char) : placeOf (cs ++ [c]) = placeOf cs ++ [c] := by
  rw [placeOf, List.reverse_append, List.reverse_singleton, List.singleton_append,
    List.takeWhile_cons_of_pos (by simpa using hc), List.reverse_cons]
  rfl

theorem parsePort_of_blank (hc : isEdge c = true) (scheme : String) {port : List Char}
    (hport : ∀ d ∈ port, endsAuthority true d = false) (hmem : c ∈ port) (p : Option UInt16 × List Char) :
    parsePort scheme port ≠ .ok p := by
  have hdigit : c.isDigit = false := forall_blank (p := fun c => c.isDigit = false) (by decide) hc
  have hrest : (port.dropWhile Char.isDigit).head?.any (!endsAuthority true ·) = true := by
    rcases hdrop : port.dropWhile Char.isDigit with _ | ⟨d, rest⟩
    · have hall := List.dropWhile_eq_nil_iff.1 hdrop c hmem
      rw [hdigit] at hall
      cases hall
    · have hd := hport d ((List.dropWhile_sublist _).subset (hdrop ▸ List.mem_cons_self))
      simp [hd]
  intro h
  rw [parsePort] at h
  simp only [hrest, if_true] at h
  split_ifs at h

/-- a part with user, host and port that ends in a blank is refused -/
theorem readPlace_of_blank (hc : isEdge c = true) {scheme : String} {authority : List Char}
    (hauthority : ∀ d ∈ authority ++ [c], endsAuthority true d = false) (place : Host × Option UInt16) :
    readPlace scheme (authority ++ [c]) ≠ .ok place := by
  intro h
  have hat : c ≠ '@' := forall_blank (p := (· ≠ '@')) (by decide) hc
  have hcolon : c ≠ ':' := forall_blank (p := (· ≠ ':')) (by decide) hc
  have hparts := hostPart_append false (placeOf (authority ++ [c]))
  have hbehind := hostPart_behind false (placeOf (authority ++ [c]))
  rw [readPlace] at h
  rcases hhost : hostPart false (placeOf (authority ++ [c])) with ⟨name, behind⟩
  rw [hhost] at h hparts hbehind
  dsimp only at h hparts hbehind
  split_ifs at h
  rcases hread : parseHost name with f | host
  · rw [hread] at h
    cases h
  · rcases hbehind with rfl | ⟨port, rfl⟩
    · -- the blank is the end of the host
      rw [List.append_nil, placeOf_concat hat] at hparts
      exact parseHost_of_blank hc (by rw [hparts, List.getLast?_concat]; rfl) host hread
    · -- the blank is the end of the port
      have hmem : c ∈ port := by
        rcases List.eq_nil_or_concat' port with rfl | ⟨more, d, rfl⟩
        · rw [placeOf_concat hat] at hparts
          exact absurd (List.append_inj' hparts rfl).2 (by simpa [eq_comm] using hcolon)
        · rw [placeOf_concat hat, ← List.cons_append, ← List.append_assoc] at hparts
          have hlast := (List.append_inj' hparts rfl).2
          cases hlast
          exact List.mem_append_right more List.mem_cons_self
      have hport : ∀ d ∈ port, endsAuthority true d = false := fun d hd =>
        hauthority d (mem_placeOf (hparts ▸ List.mem_append_right name (List.mem_cons_of_mem ':' hd)))
      rcases hcase : parsePort scheme port with f | p
      · have hrefused : (parsePort scheme port).map (fun p => (host, p.1)) = .ok place := by rwa [hread] at h
        rw [hcase] at hrefused
        cases hrefused
      · exact parsePort_of_blank hc scheme hport hmem p hcase

/-! ## In paths -/

/-- the characters of which dots are made, plain or as escapes -/
def dotCharacters : List Char := ".%2eE".toList

theorem mem_of_dropDot {segment rest : List Char} (h : Path.dropDot segment = some rest) {d : Char} (hd : d ∈ segment)
    (hnot : d ∉ dotCharacters) : d ∈ rest := by
  obtain ⟨dot, rfl, hdot⟩ : ∃ dot, segment = dot ++ rest ∧ dot.all (dotCharacters.contains ·) = true := by
    unfold Path.dropDot at h
    split at h
    · cases h
      exact ⟨['.'], rfl, by decide⟩
    · cases h
      exact ⟨['%', '2', 'e'], rfl, by decide⟩
    · cases h
      exact ⟨['%', '2', 'E'], rfl, by decide⟩
    · cases h
  refine (List.mem_append.1 hd).resolve_left fun hmem => hnot ?_
  simpa using List.all_eq_true.1 hdot d hmem

/-- a segment with another character in it is no dots -/
theorem isName_of_mem {segment : List Char} {d : Char} (hd : d ∈ segment) (hnot : d ∉ dotCharacters) :
    Path.IsName segment := by
  have hsingle {rest : List Char} (hd : d ∈ rest) : Path.isSingleDot rest = false := by
    rw [Path.isSingleDot, beq_eq_false_iff_ne]
    intro hdrop
    exact List.not_mem_nil (mem_of_dropDot hdrop hd hnot)
  refine ⟨?_, hsingle hd⟩
  unfold Path.isDoubleDot
  split
  · rename_i rest hdrop
    exact hsingle (mem_of_dropDot hdrop hd hnot)
  · rfl

theorem escape_of_blank (hc : isEdge c = true) : ∃ d ∈ encodeChar pathSet c, d ∉ dotCharacters :=
  forall_blank (p := fun c => ∃ d ∈ encodeChar pathSet c, d ∉ dotCharacters) (fun n hn => by
    have hany : ∀ n < 0x21, (encodeChar pathSet (Char.ofNat n)).any (!dotCharacters.contains ·) = true := by
      decide +kernel
    obtain ⟨d, hd, hnot⟩ := List.any_eq_true.1 (hany n hn)
    exact ⟨d, hd, by simpa using hnot⟩) hc

theorem splitOn_of_not_mem {d : Char} {cs : List Char} (h : d ∉ cs) : splitOn d cs = [cs] := by
  induction cs with
  | nil => rfl
  | cons x xs ih =>
    obtain ⟨hx, hxs⟩ := List.ne_and_not_mem_of_not_mem_cons h
    obtain ⟨piece, pieces, hsplit, hcons⟩ := splitOn_cons_of_ne d xs (Ne.symm hx)
    rw [ih hxs] at hsplit
    cases hsplit
    exact hcons

/-- what is written behind a text, without the character, goes on with the last piece -/
theorem splitOn_append_of_not_mem {d : Char} {e : List Char} (he : d ∉ e) (cs : List Char) :
    ∃ front last, splitOn d cs = front ++ [last] ∧ splitOn d (cs ++ e) = front ++ [last ++ e] := by
  induction cs with
  | nil => exact ⟨[], [], rfl, splitOn_of_not_mem he⟩
  | cons x xs ih =>
    obtain ⟨front, last, hxs, hboth⟩ := ih
    by_cases hx : x = d
    · subst hx
      exact ⟨[] :: front, last, by rw [splitOn_cons_self, hxs]; rfl, by
        rw [List.cons_append, splitOn_cons_self, hboth]; rfl⟩
    · obtain ⟨piece, pieces, hsplit, hcons⟩ := splitOn_cons_of_ne d xs hx
      obtain ⟨piece', pieces', hsplit', hcons'⟩ := splitOn_cons_of_ne d (xs ++ e) hx
      rw [hxs] at hsplit
      rw [hboth] at hsplit'
      rw [List.cons_append, hcons, hcons']
      cases front with
      | nil =>
        cases hsplit
        cases hsplit'
        exact ⟨[], x :: last, rfl, rfl⟩
      | cons next front =>
        cases hsplit
        cases hsplit'
        exact ⟨(x :: _) :: front, last, rfl, rfl⟩

namespace Path

theorem length_closed_pop_le (finished : List (List Char)) :
    (closed (pop finished)).length ≤ (closed finished).length := by
  cases finished with
  | nil => exact le_rfl
  | cons last rest =>
    rw [pop]
    split_ifs
    · exact le_rfl
    · rw [closed_cons, List.append_assoc, List.length_append]
      exact Nat.le_add_right _ _

/-- an open segment is written as it is, at most -/
theorem length_render_collect_le (finished : List (List Char)) (last : List Char) :
    (render (collect finished [last])).length ≤ (closed finished).length + last.length := by
  rw [collect]
  split_ifs
  · exact (length_closed_pop_le finished).trans (Nat.le_add_right _ _)
  · exact Nat.le_add_right _ _
  · rw [render_eq, List.length_append]

end Path

/-- a path with blanks behind it, and a plain rest behind a slash, is longer than the path and the rest -/
theorem length_parsePath_blank {cs e v : List Char} (hcs : PathText cs) (hne : cs ≠ []) (hnil : e ≠ [])
    (he : ∀ c ∈ e, isEdge c = true) (hv : Plain v) :
    (parsePath true cs).length + ('/' :: v).length < (parsePath true (cs ++ e ++ '/' :: v)).length := by
  have hends : ∀ c ∈ e, endsPath c = false := fun c hc =>
    forall_blank (p := fun c => endsPath c = false) (by decide) (he c hc)
  have hslashed : slashed e = e := by
    have hsame : ∀ c ∈ e, (if true && c == '\\' then '/' else c) = c := fun c hc =>
      forall_blank (p := fun c => (if true && c == '\\' then '/' else c) = c) (by decide) (he c hc)
    rw [slashed, List.map_congr_left hsame, List.map_id']
  have hslash : '/' ∉ e := fun hmem => absurd (he _ hmem) (by decide)
  obtain ⟨a, rest, rfl⟩ := List.exists_cons_of_ne_nil hne
  obtain ⟨ha, hrest⟩ := List.forall_mem_cons.1 hcs.character
  have hboth : PathText (a :: rest ++ e) :=
    ⟨hcs.slash, fun c hc => (List.mem_append.1 hc).elim (hcs.character c) (hends c)⟩
  obtain ⟨front, last, hpieces, hmore⟩ := splitOn_append_of_not_mem hslash (slashed rest)
  have hsegments : segments true rest = front ++ [last] := by
    rw [segments_eq hrest, hpieces]
  have hsegments' : segments true (rest ++ e) = front ++ [last ++ e] := by
    have hsum : slashed (rest ++ e) = slashed rest ++ e := by
      rw [slashed, List.map_append]
      exact congrArg (slashed rest ++ ·) hslashed
    have hall : ∀ c ∈ rest ++ e, endsPath c = false := (List.forall_mem_cons.1 hboth.character).2
    rw [segments_eq hall, hsum, hmore]
  generalize hfinished : Path.finish [] (front.map (percentEncode pathSet)) = finished
  have hpath : parsePath true (a :: rest) = Path.render (Path.collect finished [percentEncode pathSet last]) := by
    rw [parsePath_slash (hcs.slash a rfl) ha, Path.normalize, hsegments, List.map_append,
      Path.collect_append [] _ (by simp), hfinished]
    rfl
  have happend : percentEncode pathSet (last ++ e) = percentEncode pathSet last ++ percentEncode pathSet e :=
    List.flatMap_append
  -- the escapes of the blanks keep the segment from being dots, and make it longer
  obtain ⟨d, hd, hnot⟩ : ∃ d ∈ percentEncode pathSet e, d ∉ dotCharacters := by
    obtain ⟨c, hc⟩ := List.exists_mem_of_ne_nil e hnil
    obtain ⟨d, hd, hnot⟩ := escape_of_blank (he c hc)
    exact ⟨d, List.mem_flatMap.2 ⟨c, hc, hd⟩, hnot⟩
  have hname : Path.IsName (percentEncode pathSet (last ++ e)) :=
    isName_of_mem (happend ▸ List.mem_append_right _ hd) hnot
  have hpath' : Path.closed (finishedSegments (a :: rest ++ e)) =
      Path.closed finished ++ percentEncode pathSet (last ++ e) ++ ['/'] := by
    rw [← Path.closed_cons, ← Path.finishOne_of_isName hname, List.cons_append, finishedSegments, hsegments',
      List.map_append, ← hfinished, Path.finish, List.foldl_append]
    rfl
  have hencoded := List.length_pos_of_mem hd
  have hlength := Path.length_render_collect_le finished (percentEncode pathSet last)
  rw [parsePath_append hboth hv, hpath, hpath', happend]
  simp only [List.length_append, List.length_cons, List.length_nil]
  omega

/-! ## In URLs -/

/-- a URL with blanks behind it goes on to be read only if they stand in its path, or behind that -/
theorem IsSplit.append_blanks {cs authority tail e x : List Char} {scheme : String} {host : Host}
    {port : Option UInt16} (h : IsSplit cs scheme authority tail host port) (he : ∀ c ∈ e, isEdge c = true)
    (hne : e ≠ []) (hx : StartsPath x) {u : Url} (hu : ofSignificant (cs ++ (e ++ x)) = .ok u) :
    tail ≠ [] ∧ u = withPath scheme (some host) port true (tail ++ (e ++ x)) := by
  obtain ⟨c, rest, rfl⟩ := List.exists_cons_of_ne_nil hne
  have houtside : OutsideScheme (c :: rest ++ x) := by
    rintro d ⟨⟩
    exact forall_blank (p := fun c => isSchemeChar c = false ∧ c ≠ ':') (by decide) (he c List.mem_cons_self)
  rw [h.read _ houtside] at hu
  cases tail with
  | nil =>
    -- the blanks stand behind the host or the port
    obtain ⟨front, d, hconcat⟩ := (List.eq_nil_or_concat' (c :: rest)).resolve_left hne
    have hall : ∀ d ∈ authority ++ (c :: rest), endsAuthority true d = false := by
      intro d hd
      rcases List.mem_append.1 hd with hd | hd
      · exact h.character d hd
      · exact forall_blank (p := fun d => endsAuthority true d = false) (by decide) (he d hd)
    have hstarts : ∀ d ∈ x.head?, endsAuthority true d = true := fun d hd => by
      rw [hx d hd]
      decide
    rw [List.nil_append, ← List.append_assoc, parseAuthority_append scheme hall hstarts] at hu
    rw [hconcat, ← List.append_assoc] at hu hall
    have hd : isEdge d = true := he d (hconcat ▸ List.mem_append_right front List.mem_cons_self)
    rcases hplace : readPlace scheme (authority ++ front ++ [d]) with f | place
    · rw [hplace] at hu
      cases hu
    · exact absurd hplace (readPlace_of_blank hd hall place)
  | cons a tail =>
    refine ⟨List.cons_ne_nil a tail, ?_⟩
    rw [parseAuthority_append scheme h.character (by exact h.behind), h.place] at hu
    exact (Except.ok.inj hu).symm

end LoadTrial.Url
