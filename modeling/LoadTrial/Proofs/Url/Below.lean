/-
URLs continued as text.

A path that is written behind the text of a URL need not end up behind the path of the URL. `parse_append_eq_below_iff`
says when it does: the text must not end in blanks that would count inside it, the URL must have no query and no
fragment, and its path must be left with one slash at its end when those at the end of the text are taken off and one is
put there. Scheme, host and port stay the same as long as the text does not end in such blanks (`parse_append`).
-/
import LoadTrial.Proofs.Url.Blank

namespace LoadTrial

/-! ## Trimmed slashes -/

theorem Text.toList_trimEndOf (c : Char) (s : String) :
    (Text.trimEndOf c s).toList = Text.dropTail (· == c) s.toList :=
  String.toList_ofList

theorem Text.exists_dropTail_append (c : Char) (cs : List Char) :
    ∃ k, cs = Text.dropTail (· == c) cs ++ List.replicate k c := by
  refine ⟨(cs.reverse.takeWhile (· == c)).length, ?_⟩
  have hall : (cs.reverse.takeWhile (· == c)).reverse =
      List.replicate (cs.reverse.takeWhile (· == c)).length c := by
    refine List.eq_replicate_iff.2 ⟨List.length_reverse, fun d hd => ?_⟩
    simpa using List.mem_takeWhile_imp (List.mem_reverse.1 hd)
  rw [← hall, Text.dropTail, ← List.reverse_append, List.takeWhile_append_dropWhile, List.reverse_reverse]

namespace Url

/-! ## The characters that count -/

/-- the characters of a text that count if something stands behind it that is no blank -/
def countsBefore (cs : List Char) : List Char :=
  (cs.dropWhile isEdge).filter (!isIgnored ·)

/-- the blanks at the end of a text that would count inside it -/
def blanksBehind (cs : List Char) : List Char :=
  (cs.reverse.takeWhile isEdge).reverse.filter (!isIgnored ·)

theorem isEdge_of_mem_blanksBehind {cs : List Char} {c : Char} (h : c ∈ blanksBehind cs) : isEdge c = true :=
  List.mem_takeWhile_imp (List.mem_reverse.1 (List.mem_filter.1 h).1)

/-- the blanks at the end of a text stay there if something stands behind it -/
theorem countsBefore_eq {cs : List Char} (hne : cs.dropWhile isEdge ≠ []) :
    countsBefore cs = significant cs ++ blanksBehind cs := by
  have hend : cs.reverse.takeWhile isEdge = (cs.dropWhile isEdge).reverse.takeWhile isEdge := by
    conv_lhs =>
      rw [← List.takeWhile_append_dropWhile (p := isEdge) (l := cs), List.reverse_append, List.takeWhile_append]
    refine if_neg fun hall => ?_
    have hself := (List.takeWhile_sublist isEdge).eq_of_length hall
    have hhead := List.takeWhile_eq_self_iff.1 hself (cs.dropWhile isEdge |>.head hne) (by simp)
    rw [head_dropWhile isEdge cs _ (List.head_mem_head? hne)] at hhead
    cases hhead
  rw [countsBefore, significant, blanksBehind, hend, ← List.filter_append, Text.dropTail, ← List.reverse_append,
    List.takeWhile_append_dropWhile, List.reverse_reverse]

variable {cs x : List Char}

theorem filter_ignored (h : ∀ c ∈ x, isEdge c = false) : x.filter (!isIgnored ·) = x := by
  refine List.filter_eq_self.2 fun c hc => ?_
  by_contra hnot
  have hignored : isIgnored c = true := by simpa using hnot
  simp only [isIgnored, Bool.or_eq_true, beq_iff_eq] at hignored
  have hedge := h c hc
  rcases hignored with (rfl | rfl) | rfl <;> exact absurd hedge (by decide)

theorem countsBefore_append (h : ∀ c ∈ x, isEdge c = false) : countsBefore (cs ++ x) = countsBefore cs ++ x := by
  rw [countsBefore, dropWhile_append_of_head fun c hc => h c (List.mem_of_mem_head? hc), List.filter_append,
    filter_ignored h, countsBefore]

theorem blanksBehind_append (h : ∀ c ∈ x, isEdge c = false) (hne : x ≠ []) : blanksBehind (cs ++ x) = [] := by
  obtain ⟨front, c, rfl⟩ := (List.eq_nil_or_concat' x).resolve_left hne
  have hc : ¬isEdge c = true := by simp [h c (List.mem_append_right front List.mem_cons_self)]
  rw [blanksBehind, ← List.append_assoc, List.reverse_append, List.reverse_singleton, List.singleton_append,
    List.takeWhile_cons_of_neg hc]
  rfl

/-- all of a text counts, but for the blanks in front of it, if something stands behind it -/
theorem significant_append (h : ∀ c ∈ x, isEdge c = false) (hne : x ≠ []) :
    significant (cs ++ x) = countsBefore cs ++ x := by
  have hdrop : (cs ++ x).dropWhile isEdge ≠ [] := by
    rw [dropWhile_append_of_head fun c hc => h c (List.mem_of_mem_head? hc)]
    exact List.append_ne_nil_of_right_ne_nil _ hne
  rw [← countsBefore_append h, countsBefore_eq hdrop, blanksBehind_append h hne, List.append_nil]

/-! ## Paths, queries and fragments -/

section Tail

variable (scheme : String) (host : Option Host) (port : Option UInt16) {cs : List Char}

@[simp]
theorem withPath_path (special : Bool) (cs : List Char) :
    (withPath scheme host port special cs).path = String.ofList (parsePath special cs) := rfl

/-- a path alone has no query and no fragment behind it -/
theorem withPath_of_forall (h : ∀ c ∈ cs, endsPath c = false) : withPath scheme host port true cs =
    { scheme, host, port, path := String.ofList (parsePath true cs), query := none, fragment := none } := by
  have hnone : cs.dropWhile (!endsPath ·) = [] := List.dropWhile_eq_nil_iff.2 fun c hc => by simp [h c hc]
  rw [withPath, hnone]
  rfl

/-- where a path ends, a query or a fragment begins -/
theorem withPath_of_exists (h : ∃ c ∈ cs, endsPath c = true) :
    ¬((withPath scheme host port true cs).query = none ∧ (withPath scheme host port true cs).fragment = none) := by
  rcases hrest : cs.dropWhile (!endsPath ·) with _ | ⟨c, rest⟩
  · obtain ⟨c, hc, hends⟩ := h
    have hnot := List.dropWhile_eq_nil_iff.1 hrest c hc
    rw [hends] at hnot
    cases hnot
  · have hends : endsPath c = true := by
      simpa using head_dropWhile (!endsPath ·) cs c (by rw [hrest]; rfl)
    rw [withPath, hrest]
    rintro ⟨hquery, hfragment⟩
    simp only [endsPath, Bool.or_eq_true, beq_iff_eq] at hends
    rcases hends with rfl | rfl
    · cases hquery
    · cases hfragment

end Tail

/-- what stands behind host and port is a path, up to where that ends -/
theorem pathText_of_not_exists {tail : List Char} (htail : ∀ c ∈ tail.head?, endsAuthority true c = true)
    (h : ¬∃ c ∈ tail, endsPath c = true) : PathText tail := by
  simp only [not_exists, not_and, Bool.not_eq_true] at h
  refine ⟨fun c hc => ?_, h⟩
  have hslash := htail c hc
  rw [endsAuthority, h c (List.mem_of_mem_head? hc), Bool.or_false] at hslash
  exact hslash

/-! ## Resources below a URL -/

/-- the URL of a resource below another: slashes at the end of a path do not count, nor what stands behind it -/
def below (base : Url) (path : String) : Url :=
  { base with path := Text.trimEndOf '/' base.path ++ path, query := none, fragment := none }

/-- a path written behind a URL is the one of a resource below it if the URL ends in a path, and that in no slashes
    but those written there last -/
theorem withPath_append_eq_below_iff (scheme : String) (host : Option Host) (port : Option UInt16) {tail v : List Char}
    (htail : ∀ c ∈ tail.head?, endsAuthority true c = true) (hv : Plain v) {path : String}
    (hpath : path.toList = '/' :: v) (k : Nat) :
    withPath scheme host port true (tail ++ '/' :: v) =
        (withPath scheme host port true (tail ++ List.replicate k '/')).below path ↔
      (withPath scheme host port true (tail ++ List.replicate k '/')).query = none ∧
        (withPath scheme host port true (tail ++ List.replicate k '/')).fragment = none ∧
        ¬['/', '/'] <:+ (withPath scheme host port true (tail ++ ['/'])).path.toList := by
  by_cases hends : ∃ c ∈ tail, endsPath c = true
  · have hbehind (x : List Char) : ∃ c ∈ tail ++ x, endsPath c = true := by
      obtain ⟨c, hc, hends⟩ := hends
      exact ⟨c, List.mem_append_left x hc, hends⟩
    refine iff_of_false (fun heq => ?_) fun ⟨hquery, hfragment, _⟩ => ?_
    · refine withPath_of_exists scheme host port (hbehind ('/' :: v)) ?_
      rw [heq]
      exact ⟨rfl, rfl⟩
    · exact withPath_of_exists scheme host port (hbehind _) ⟨hquery, hfragment⟩
  · have htext := pathText_of_not_exists htail hends
    have hread (x : List Char) (hx : ∀ c ∈ x, endsPath c = false) : withPath scheme host port true (tail ++ x) = {
        scheme, host, port, path := String.ofList (parsePath true (tail ++ x)), query := none, fragment := none } := by
      refine withPath_of_forall scheme host port fun c hc => ?_
      rcases List.mem_append.1 hc with hc | hc
      · exact htext.character c hc
      · exact hx c hc
    have hbehind : ∀ c ∈ '/' :: v, endsPath c = false :=
      List.forall_mem_cons.2 ⟨by decide, fun c hc => (hv.character c hc).1⟩
    have hslashes : ∀ c ∈ List.replicate k '/', endsPath c = false := List.forall_mem_replicate.2 (.inr rfl)
    have hpaths : parsePath true (tail ++ '/' :: v) =
          stripSlashes (parsePath true (tail ++ List.replicate k '/')) ++ '/' :: v ↔
        ¬['/', '/'] <:+ parsePath true (tail ++ ['/']) := by
      rw [parsePath_append htext hv, stripSlashes_parsePath htext, append_eq_stripSlashes_iff,
        parsePath_append htext plain_nil, List.append_nil]
    rw [hread _ hbehind, hread _ hslashes, hread ['/'] (List.forall_mem_singleton.2 rfl), String.toList_ofList, ← hpaths]
    simp only [below, mk.injEq, true_and, and_true, ← String.toList_inj, String.toList_append,
      Text.toList_trimEndOf, String.toList_ofList, hpath]
    rfl

/-- a text that is a URL does not only consist of blanks -/
theorem dropWhile_isEdge_ne_nil {text : String} {base : Url} (hbase : parse text = .ok base) :
    text.toList.dropWhile isEdge ≠ [] := by
  intro hnil
  rw [parse_eq, significant, hnil] at hbase
  cases hbase

theorem isEdge_slashes (k : Nat) : ∀ c ∈ List.replicate k '/', isEdge c = false :=
  List.forall_mem_replicate.2 (.inr rfl)

/-- a URL as it is written, up to the path that is written behind it -/
theorem exists_isSplit_of_parse {text : String} {base : Url} (hbase : parse text = .ok base)
    (hspecial : syntaxOf base.scheme = .special) (hend : blanksBehind text.toList = []) {k : Nat}
    (hk : text.toList = cs ++ List.replicate k '/') :
    ∃ authority tail host port, IsSplit (countsBefore cs) base.scheme authority tail host port ∧
      base = withPath base.scheme (some host) port true (tail ++ List.replicate k '/') := by
  have hcounts : significant text.toList = countsBefore cs ++ List.replicate k '/' := by
    rw [← countsBefore_append (isEdge_slashes k), ← hk, countsBefore_eq (dropWhile_isEdge_ne_nil hbase), hend,
      List.append_nil]
  rw [parse_eq, hcounts] at hbase
  obtain ⟨authority, tail, host, port, hsplit⟩ := exists_isSplit hbase hspecial
  rw [hsplit.append (startsPath_replicate k)] at hbase
  exact ⟨authority, tail, host, port, hsplit, (Except.ok.inj hbase).symm⟩

theorem parse_trimmed_append (text : String) {path : String} {v : List Char} (hpath : path.toList = '/' :: v)
    (hv : Plain v) : parse (Text.trimEndOf '/' text ++ path) =
      ofSignificant (countsBefore (Text.dropTail (· == '/') text.toList) ++ '/' :: v) := by
  rw [parse_eq, String.toList_append, Text.toList_trimEndOf, hpath,
    significant_append (List.forall_mem_cons.2 ⟨by decide, fun c hc => (hv.character c hc).2.2⟩)
      (List.cons_ne_nil _ _)]

section Continuation

variable {text path : String} {base : Url} {v : List Char} (hbase : parse text = .ok base)
  (hspecial : syntaxOf base.scheme = .special) (hpath : path.toList = '/' :: v) (hv : Plain v)

include hbase hspecial hpath hv

/-- without blanks at its end, a URL keeps its scheme, host and port whatever path is written behind its text -/
theorem parse_append (hend : blanksBehind text.toList = []) :
    ∃ signed, parse (Text.trimEndOf '/' text ++ path) = .ok signed ∧
      signed.scheme = base.scheme ∧ signed.host = base.host ∧ signed.port = base.port := by
  obtain ⟨k, hk⟩ := Text.exists_dropTail_append '/' text.toList
  obtain ⟨authority, tail, host, port, hsplit, hwhole⟩ := exists_isSplit_of_parse hbase hspecial hend hk
  refine ⟨_, (parse_trimmed_append text hpath hv).trans (hsplit.append (startsPath_cons v)), ?_⟩
  rw [hwhole]
  exact ⟨rfl, rfl, rfl⟩

/-- with blanks at its end, a URL never goes on with a path: they spoil its host, or stand in its path -/
theorem parse_append_ne_below (hend : blanksBehind text.toList ≠ []) :
    parse (Text.trimEndOf '/' text ++ path) ≠ .ok (base.below path) := by
  intro hsigned
  -- a text that ends in blanks does not end in slashes
  have hself : Text.dropTail (· == '/') text.toList = text.toList := by
    obtain ⟨k, hk⟩ := Text.exists_dropTail_append '/' text.toList
    cases k with
    | zero => rw [List.replicate_zero, List.append_nil] at hk; exact hk.symm
    | succ k =>
      rw [hk, blanksBehind_append (isEdge_slashes (k + 1)) (by simp)] at hend
      exact absurd rfl hend
  obtain ⟨authority, tail, host, port, hsplit⟩ := exists_isSplit (k := 0) (by
    rw [List.replicate_zero, List.append_nil]
    exact hbase) hspecial
  rw [parse_trimmed_append text hpath hv, hself, countsBefore_eq (dropWhile_isEdge_ne_nil hbase),
    List.append_assoc] at hsigned
  have hblanks : ∀ c ∈ blanksBehind text.toList, isEdge c = true := fun c hc => isEdge_of_mem_blanksBehind hc
  obtain ⟨hne, hbelow⟩ := hsplit.append_blanks hblanks hend (startsPath_cons v) hsigned
  have hwhole : base = withPath base.scheme (some host) port true tail := by
    have hread := hsplit.append (x := []) nofun
    rw [List.append_nil, List.append_nil, ← parse_eq, hbase] at hread
    exact Except.ok.inj hread
  by_cases hends : ∃ c ∈ tail, endsPath c = true
  · obtain ⟨c, hc, hends⟩ := hends
    have hmem := List.mem_append_left (blanksBehind text.toList ++ '/' :: v) hc
    refine withPath_of_exists base.scheme (some host) port ⟨c, hmem, hends⟩ ?_
    rw [← hbelow]
    exact ⟨rfl, rfl⟩
  · have htext := pathText_of_not_exists hsplit.behind hends
    have hlonger := length_parsePath_blank htext hne hend hblanks hv
    have hshorter := length_stripSlashes_le (parsePath true tail)
    have hlength : (stripSlashes (parsePath true tail) ++ '/' :: v).length =
        (parsePath true (tail ++ blanksBehind text.toList ++ '/' :: v)).length := by
      have hpaths := congrArg (·.path.toList.length) hbelow
      rw [hwhole] at hpaths
      rw [List.append_assoc]
      simpa only [below, stripSlashes, String.toList_append, Text.toList_trimEndOf, withPath_path,
        String.toList_ofList, hpath] using hpaths
    rw [List.length_append] at hlength
    omega

/-- a path written behind the text of a URL stands behind its path if the URL ends in a path, without blanks, and that
    in no slashes but those at the end of the text -/
theorem parse_append_eq_below_iff : parse (Text.trimEndOf '/' text ++ path) = .ok (base.below path) ↔
    blanksBehind text.toList = [] ∧ base.query = none ∧ base.fragment = none ∧
      ∃ closed, parse (Text.trimEndOf '/' text ++ "/") = .ok closed ∧ ¬['/', '/'] <:+ closed.path.toList := by
  by_cases hend : blanksBehind text.toList = []
  · obtain ⟨k, hk⟩ := Text.exists_dropTail_append '/' text.toList
    obtain ⟨authority, tail, host, port, hsplit, hwhole⟩ := exists_isSplit_of_parse hbase hspecial hend hk
    have hclosed : parse (Text.trimEndOf '/' text ++ "/") =
        .ok (withPath base.scheme (some host) port true (tail ++ ['/'])) :=
      (parse_trimmed_append text (by decide) plain_nil).trans (hsplit.append (startsPath_cons []))
    have hsigned := (parse_trimmed_append text hpath hv).trans (hsplit.append (startsPath_cons v))
    rw [hclosed, hsigned]
    simp only [Except.ok.injEq, exists_eq_left', hend, true_and]
    generalize base.scheme = scheme at hwhole
    cases hwhole
    exact withPath_append_eq_below_iff scheme (some host) port hsplit.behind hv hpath k
  · exact iff_of_false (parse_append_ne_below hbase hspecial hpath hv hend) fun h => hend h.1

end Continuation

end Url

end LoadTrial
