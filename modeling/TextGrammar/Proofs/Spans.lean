import Mathlib.Data.List.Forall2
import TextGrammar.Proofs.Search
/-!
# What expressions match

An expression spans a part of a text when it matches the characters of that part where they stand.
The search is sound: it only finds parts that the expression spans.
-/
namespace TextGrammar.Regex

def charBefore (text : List Char) : Nat → Option Char
  | 0 => none
  | position + 1 => text[position]?

/-- The expression matches the characters of `text` from `start` to `stop`. -/
inductive Spans (text : List Char) : Regex → (start stop : Nat) → Prop
  | empty {start} : Spans text .empty start start
  | look {kind start} : kind.holds (charBefore text start) text[start]? = true →
    Spans text (.look kind) start start
  | chars {set c start} : text[start]? = some c → set.has c = true →
    Spans text (.chars set) start (start + 1)
  | capture {index body start stop} : Spans text body start stop →
    Spans text (.capture index body) start stop
  | seq {first second start middle stop} : Spans text first start middle →
    Spans text second middle stop → Spans text (.seq first second) start stop
  | altFirst {first second start stop} : Spans text first start stop →
    Spans text (.alt first second) start stop
  | altSecond {first second start stop} : Spans text second start stop →
    Spans text (.alt first second) start stop
  | iterateDone {max greedy body start} : Spans text (.iterate 0 max greedy body) start start
  /-- Copies that are asked for are matched even if the bounds contradict each other. -/
  | iterateMore {min max greedy body start middle stop} : 0 < min ∨ max ≠ some 0 →
    Spans text body start middle →
    Spans text (.iterate (min - 1) (max.map (· - 1)) greedy body) middle stop →
    Spans text (.iterate min max greedy body) start stop
  | againDone {greedy body start} : Spans text (.again greedy body) start start
  | againMore {greedy body start middle stop} : Spans text body start middle →
    Spans text (.again greedy body) middle stop → Spans text (.again greedy body) start stop

def SpansAll (text : List Char) : List Regex → (start stop : Nat) → Prop
  | [], start, stop => start = stop
  | r :: rs, start, stop => ∃ middle, r.Spans text start middle ∧ SpansAll text rs middle stop

variable {text : List Char} {r : Regex} {start stop position : Nat}

theorem Spans.start_le_stop (h : r.Spans text start stop) : start ≤ stop := by
  induction h with
  | empty | look | iterateDone | againDone => exact Nat.le_refl _
  | chars => exact Nat.le_succ _
  | capture _ ih | altFirst _ ih | altSecond _ ih => exact ih
  | seq _ _ ih ih' | iterateMore _ _ _ ih ih' | againMore _ _ ih ih' => exact Nat.le_trans ih ih'

theorem spans_chars {set : CharSet} :
    (chars set).Spans text start stop ↔
      stop = start + 1 ∧ ∃ c, text[start]? = some c ∧ set.has c = true := by
  constructor
  · intro h
    cases h with
    | chars hc hset => exact ⟨rfl, _, hc, hset⟩
  · rintro ⟨rfl, c, hc, hset⟩
    exact .chars hc hset

theorem spans_capture {index : Nat} {body : Regex} :
    (capture index body).Spans text start stop ↔ body.Spans text start stop := by
  constructor
  · intro h
    cases h with
    | capture h => exact h
  · exact .capture

theorem spans_seq {first second : Regex} :
    (seq first second).Spans text start stop ↔
      ∃ middle, first.Spans text start middle ∧ second.Spans text middle stop := by
  constructor
  · intro h
    cases h with
    | seq hfirst hsecond => exact ⟨_, hfirst, hsecond⟩
  · rintro ⟨_, hfirst, hsecond⟩
    exact .seq hfirst hsecond

theorem spans_alt {first second : Regex} :
    (alt first second).Spans text start stop ↔
      first.Spans text start stop ∨ second.Spans text start stop := by
  constructor
  · intro h
    cases h with
    | altFirst h => exact .inl h
    | altSecond h => exact .inr h
  · rintro (h | h)
    · exact .altFirst h
    · exact .altSecond h

theorem Spans.iterate_of_again {greedy : Bool} {body : Regex}
    (h : (again greedy body).Spans text start stop) :
    (iterate 0 none greedy body).Spans text start stop := by
  generalize hagain : again greedy body = r at h
  induction h with
  | againDone =>
    exact .iterateDone
  | againMore hbody _ _ ih =>
    cases hagain
    exact .iterateMore (.inr nofun) hbody (ih rfl)
  | _ => cases hagain

theorem spansAll_append {first second : List Regex} :
    SpansAll text (first ++ second) start stop ↔
      ∃ middle, SpansAll text first start middle ∧ SpansAll text second middle stop := by
  induction first generalizing start with
  | nil => simp [SpansAll]
  | cons r first ih => simp only [List.cons_append, SpansAll, ih]; grind

/-! ## The search is sound -/

theorem spansAll_of_prefer {greedy : Bool} {body rest whole : Regex} {todo way : List Regex}
    (hway : way ∈ prefer greedy (body :: rest :: todo) todo)
    (hdone : whole.Spans text position position)
    (hmore : ∀ {middle stop}, body.Spans text position middle → rest.Spans text middle stop →
      whole.Spans text position stop)
    (h : SpansAll text way position stop) : SpansAll text (whole :: todo) position stop := by
  have hcases : way = body :: rest :: todo ∨ way = todo := by
    cases greedy with
    | true => simpa [prefer] using hway
    | false => simpa [prefer, or_comm] using hway
  rcases hcases with rfl | rfl
  · obtain ⟨_, hbody, _, hrest, htodo⟩ := h
    exact ⟨_, hmore hbody hrest, htodo⟩
  · exact ⟨_, hdone, h⟩

theorem spansAll_of_ways {todo way : List Regex} {offered : List (List Regex)}
    (hways : r.ways (charBefore text position) text[position]? todo = some offered)
    (hway : way ∈ offered) (h : SpansAll text way position stop) :
    SpansAll text (r :: todo) position stop := by
  revert hways
  fun_cases ways (charBefore text position) text[position]? todo r <;> rintro ⟨⟩
  case case2 =>
    cases List.mem_singleton.mp hway
    exact ⟨_, .empty, h⟩
  case case3 kind =>
    split at hway
    · next hholds =>
      cases List.mem_singleton.mp hway
      exact ⟨_, .look hholds, h⟩
    · cases hway
  case case4 =>
    cases List.mem_singleton.mp hway
    obtain ⟨_, hbody, htodo⟩ := h
    exact ⟨_, .capture hbody, htodo⟩
  case case5 =>
    cases List.mem_singleton.mp hway
    obtain ⟨_, hfirst, _, hsecond, htodo⟩ := h
    exact ⟨_, .seq hfirst hsecond, htodo⟩
  case case6 =>
    rcases List.mem_cons.mp hway with rfl | hway
    · obtain ⟨_, hfirst, htodo⟩ := h
      exact ⟨_, .altFirst hfirst, htodo⟩
    · cases List.mem_singleton.mp hway
      obtain ⟨_, hsecond, htodo⟩ := h
      exact ⟨_, .altSecond hsecond, htodo⟩
  case case7 =>
    cases List.mem_singleton.mp hway
    obtain ⟨_, hagain, htodo⟩ := h
    exact ⟨_, hagain.iterate_of_again, htodo⟩
  case case8 =>
    refine spansAll_of_prefer hway .iterateDone ?_ h
    intro _ _ hbody hagain
    exact .iterateMore (.inr nofun) hbody hagain.iterate_of_again
  case case9 =>
    cases List.mem_singleton.mp hway
    obtain ⟨_, hbody, _, hagain, htodo⟩ := h
    exact ⟨_, .iterateMore (.inr nofun) hbody hagain.iterate_of_again, htodo⟩
  case case10 =>
    cases List.mem_singleton.mp hway
    obtain ⟨_, hbody, _, hrest, htodo⟩ := h
    exact ⟨_, .iterateMore (.inr nofun) hbody hrest, htodo⟩
  case case11 =>
    cases List.mem_singleton.mp hway
    exact ⟨_, .iterateDone, h⟩
  case case12 =>
    refine spansAll_of_prefer hway .iterateDone ?_ h
    intro _ _ hbody hrest
    exact .iterateMore (.inr nofun) hbody hrest
  case case13 =>
    cases List.mem_singleton.mp hway
    obtain ⟨_, hbody, _, hrest, htodo⟩ := h
    exact ⟨_, .iterateMore (.inl (Nat.succ_pos _)) hbody hrest, htodo⟩
  case case14 =>
    exact spansAll_of_prefer hway .againDone .againMore h

/-- Whatever lets the thread end lets the expression that was searched for end with it. -/
def Leads (r : Regex) (text : List Char) (position : Nat) (thread : Thread) : Prop :=
  ∀ stop, SpansAll text thread.todo position stop → r.Spans text thread.start stop

theorem settle_leads (fuel : Nat) {pending : List Thread} (seen : List (List Regex))
    (hpending : ∀ thread ∈ pending, r.Leads text position thread) :
    ∀ thread ∈ settle (charBefore text position) text[position]? fuel pending seen,
      r.Leads text position thread := by
  fun_induction settle (charBefore text position) text[position]? fuel pending seen with
  | case1 | case2 => simp
  | case3 _ _ _ _ _ ih => exact ih (List.forall_mem_cons.mp hpending).2
  | case4 => exact List.forall_mem_singleton.mpr (List.forall_mem_cons.mp hpending).1
  | case5 fuel thread pending seen _ r' todo _ _ ih =>
    obtain ⟨hthread, hpending⟩ := List.forall_mem_cons.mp hpending
    exact List.forall_mem_cons.mpr ⟨hthread, ih hpending⟩
  | case6 fuel thread pending seen _ r' todo htodo offered hways ih =>
    obtain ⟨hthread, hpending⟩ := List.forall_mem_cons.mp hpending
    apply ih
    intro further hfurther
    rcases List.mem_append.mp hfurther with hfurther | hfurther
    · obtain ⟨way, hway, rfl⟩ := List.mem_map.mp hfurther
      intro stop hstop
      apply hthread
      rw [htodo]
      exact spansAll_of_ways hways hway hstop
    · exact hpending further hfurther

theorem advance_leads {c : Char} {thread next : Thread} (hc : text[position]? = some c)
    (hthread : r.Leads text position thread) (h : advance c thread = some next) :
    r.Leads text (position + 1) next := by
  obtain ⟨start, todo⟩ := thread
  unfold advance at h
  split at h
  · next set todo htodo =>
    split at h
    · next hset =>
      cases h
      intro stop hstop
      apply hthread
      rw [htodo]
      exact ⟨_, .chars hc hset, hstop⟩
    · cases h
  · cases h

theorem matched?_spans {threads : List Thread} {span : Span}
    (hthreads : ∀ thread ∈ threads, r.Leads text position thread)
    (h : matched? position threads = some span) : r.Spans text span.start span.stop := by
  obtain ⟨thread, hmem, hthread⟩ := List.exists_of_findSome?_eq_some h
  split at hthread
  · next hempty =>
    cases hthread
    apply hthreads thread hmem
    rw [List.isEmpty_iff.mp hempty]
    rfl
  · cases hthread

theorem append_fresh_leads {threads : List Thread} (isFresh : Bool)
    (hthreads : ∀ thread ∈ threads, r.Leads text position thread) :
    ∀ thread ∈ threads ++ (if isFresh then [⟨position, [r]⟩] else []),
      r.Leads text position thread := by
  intro thread hmem
  rcases List.mem_append.mp hmem with hmem | hmem
  · exact hthreads thread hmem
  · split at hmem
    · cases List.mem_singleton.mp hmem
      rintro stop ⟨_, hspans, rfl⟩
      exact hspans
    · cases hmem

theorem best_spans {threads : List Thread} {best : Option Span} {span : Span}
    (hthreads : ∀ thread ∈ threads, r.Leads text position thread)
    (hbest : ∀ span, best = some span → r.Spans text span.start span.stop)
    (h : (matched? position threads).or best = some span) : r.Spans text span.start span.stop := by
  rcases Option.or_eq_some_iff.mp h with hmatched | ⟨_, hold⟩
  · exact matched?_spans hthreads hmatched
  · exact hbest span hold

/-- What the search keeps up from position to position: all threads lead somewhere, and the best
match so far is one. -/
theorem scan_spans {before : Option Char} {threads : List Thread} {best : Option Span}
    {passed rest : List Char} {span : Span} (htext : text = passed ++ rest)
    (hposition : position = passed.length) (hbefore : before = charBefore text position)
    (hthreads : ∀ thread ∈ threads, r.Leads text position thread)
    (hbest : ∀ span, best = some span → r.Spans text span.start span.stop)
    (h : scan r position before threads best rest = some span) :
    r.Spans text span.start span.stop := by
  induction rest generalizing position before threads best passed with
  | nil =>
    have hhead : ([] : List Char).head? = text[position]? := by simp [htext, hposition]
    have hsettled := settle_leads (8 * r.weight + 16) []
      (append_fresh_leads (best.isNone && (position = 0 || !r.isAnchored)) hthreads)
    rw [scan, hbefore, hhead] at h
    exact best_spans hsettled hbest h
  | cons c rest ih =>
    have hc : text[position]? = some c := by simp [htext, hposition]
    have hhead : (c :: rest).head? = text[position]? := by rw [hc]; rfl
    have hsettled := settle_leads (8 * r.weight + 16) []
      (append_fresh_leads (best.isNone && (position = 0 || !r.isAnchored)) hthreads)
    rw [scan, hbefore, hhead] at h
    generalize settle _ _ _ _ _ = settled at h hsettled
    split at h
    · exact best_spans hsettled hbest h
    · have htext' : text = (passed ++ [c]) ++ rest := by
        rw [htext, List.append_assoc, List.singleton_append]
      refine ih htext' ?_ hc.symm ?_ ?_ h
      · rw [hposition, List.length_append, List.length_singleton]
      · intro thread hmem
        obtain ⟨waiting, hwaiting, hadvance⟩ := List.mem_filterMap.mp hmem
        exact advance_leads hc (hsettled waiting hwaiting) hadvance
      · intro span hspan
        exact best_spans hsettled hbest hspan

theorem find_spans {span : Span} (h : r.find text = some span) :
    r.Spans text span.start span.stop := by
  have htext : text = [] ++ text := rfl
  exact scan_spans htext rfl rfl (by simp) (by simp) h

/-! ## Sequences -/

theorem spans_ofParts {rs : List Regex} :
    (ofParts rs).Spans text start stop ↔ SpansAll text rs start stop := by
  fun_induction ofParts rs generalizing start with
  | case1 =>
    constructor
    · rintro ⟨⟩
      rfl
    · rintro rfl
      exact .empty
  | case2 r => simp [SpansAll]
  | case3 r rs _ ih => simp only [spans_seq, SpansAll, ih]

theorem spansAll_parts {r : Regex} :
    SpansAll text r.parts start stop ↔ r.Spans text start stop := by
  fun_induction parts r generalizing start stop with
  | case1 =>
    constructor
    · rintro rfl
      exact .empty
    · rintro ⟨⟩
      rfl
  | case2 first second ih ih' => simp only [spansAll_append, spans_seq, ih, ih']
  | case3 => simp [SpansAll]

theorem spans_sequence {rs : List Regex} :
    (sequence rs).Spans text start stop ↔ SpansAll text rs start stop := by
  rw [sequence, spans_ofParts]
  induction rs generalizing start with
  | nil => rfl
  | cons r rs ih => simp only [List.flatMap_cons, spansAll_append, spansAll_parts, ih, SpansAll]

/-! ## Choices -/

theorem Spans.iterate_congr {body body' : Regex} {min : Nat} {max : Option Nat} {greedy : Bool}
    (hbody : ∀ start stop, body.Spans text start stop → body'.Spans text start stop)
    (h : (iterate min max greedy body).Spans text start stop) :
    (iterate min max greedy body').Spans text start stop := by
  generalize hr : iterate min max greedy body = r at h
  induction h generalizing min max with
  | iterateDone =>
    cases hr
    exact .iterateDone
  | iterateMore hmore hcopy _ _ ih =>
    cases hr
    exact .iterateMore hmore (hbody _ _ hcopy) (ih rfl)
  | _ => cases hr

theorem Spans.again_congr {body body' : Regex} {greedy : Bool}
    (hbody : ∀ start stop, body.Spans text start stop → body'.Spans text start stop)
    (h : (again greedy body).Spans text start stop) :
    (again greedy body').Spans text start stop := by
  generalize hr : again greedy body = r at h
  induction h with
  | againDone =>
    cases hr
    exact .againDone
  | againMore hcopy _ _ ih =>
    cases hr
    exact .againMore (hbody _ _ hcopy) (ih rfl)
  | _ => cases hr

def SpansAlike (text : List Char) (r s : Regex) : Prop :=
  ∀ start stop, r.Spans text start stop ↔ s.Spans text start stop

theorem spansAlike_of_isSame (h : r.isSame s = true) : SpansAlike text r s := by
  intro start stop
  fun_induction isSame r s generalizing start stop with
  | case1 => rfl
  | case2 kind kind' => rw [of_decide_eq_true h]
  | case3 set set' =>
    simp only [CharSet.isSame, Bool.and_eq_true] at h
    simp only [spans_chars, CharSet.has_eq_of_agrees h.1]
  | case4 index body index' body' ih =>
    simp only [Bool.and_eq_true] at h
    rw [spans_capture, spans_capture, ih h.2]
  | case5 first second first' second' ih ih' =>
    simp only [Bool.and_eq_true] at h
    simp only [spans_seq, ih h.1, ih' h.2]
  | case6 first second first' second' ih ih' =>
    simp only [Bool.and_eq_true] at h
    rw [spans_alt, spans_alt, ih h.1, ih' h.2]
  | case7 min max greedy body min' max' greedy' body' ih =>
    simp only [Bool.and_eq_true, decide_eq_true_eq] at h
    obtain ⟨⟨⟨rfl, rfl⟩, rfl⟩, hsame⟩ := h
    have hbody := ih hsame
    exact ⟨.iterate_congr fun _ _ => (hbody _ _).mp, .iterate_congr fun _ _ => (hbody _ _).mpr⟩
  | case8 greedy body greedy' body' ih =>
    simp only [Bool.and_eq_true, decide_eq_true_eq] at h
    obtain ⟨rfl, hsame⟩ := h
    have hbody := ih hsame
    exact ⟨.again_congr fun _ _ => (hbody _ _).mp, .again_congr fun _ _ => (hbody _ _).mpr⟩
  | case9 => cases h

theorem spansAll_congr {rs ss : List Regex} (h : List.Forall₂ (SpansAlike text) rs ss) :
    SpansAll text rs start stop ↔ SpansAll text ss start stop := by
  induction h generalizing start with
  | nil => rfl
  | cons hfirst _ ih => simp only [SpansAll, hfirst start, ih]

/-- The sequence starts with expressions that match like those of `lead`. -/
def LeadsAlike (text : List Char) (lead rs : List Regex) : Prop :=
  ∃ own rest, rs = own ++ rest ∧ List.Forall₂ (SpansAlike text) own lead

theorem LeadsAlike.spansAll {lead rs : List Regex} (h : LeadsAlike text lead rs) :
    SpansAll text rs start stop ↔
      ∃ middle, SpansAll text lead start middle ∧
        SpansAll text (rs.drop lead.length) middle stop := by
  obtain ⟨own, rest, rfl, halike⟩ := h
  rw [← halike.length_eq, List.drop_left, spansAll_append]
  simp only [spansAll_congr halike]

theorem LeadsAlike.of_isPrefix {lead lead' rs : List Regex} (h : LeadsAlike text lead rs)
    (hbegins : lead' <+: lead) : LeadsAlike text lead' rs := by
  obtain ⟨own, rest, rfl, halike⟩ := h
  obtain ⟨further, rfl⟩ := hbegins
  refine ⟨own.take lead'.length, own.drop lead'.length ++ rest, ?_, ?_⟩
  · rw [← List.append_assoc, List.take_append_drop]
  · exact List.forall₂_take_append own lead' further halike

theorem commonParts_isPrefix (rs ss : List Regex) : commonParts rs ss <+: rs := by
  fun_induction commonParts rs ss with
  | case1 r rs s ss _ ih => exact List.prefix_cons_inj r |>.mpr ih
  | case2 | case3 => exact List.nil_prefix

theorem leadsAlike_commonParts (rs ss : List Regex) : LeadsAlike text (commonParts rs ss) ss := by
  fun_induction commonParts rs ss with
  | case1 r rs s ss hsame ih =>
    obtain ⟨own, rest, rfl, halike⟩ := ih
    exact ⟨s :: own, rest, rfl, .cons (fun _ _ => (spansAlike_of_isSame hsame _ _).symm) halike⟩
  | case2 | case3 => exact ⟨[], _, rfl, .nil⟩

theorem leadsAlike_foldl (text : List Char) (lists : List (List Regex)) (lead : List Regex) :
    lists.foldl commonParts lead <+: lead ∧
      ∀ list ∈ lists, LeadsAlike text (lists.foldl commonParts lead) list := by
  induction lists generalizing lead with
  | nil => exact ⟨List.prefix_rfl, by simp⟩
  | cons list lists ih =>
    obtain ⟨hbegins, hlists⟩ := ih (commonParts lead list)
    refine ⟨hbegins.trans (commonParts_isPrefix lead list), ?_⟩
    rw [List.forall_mem_cons]
    exact ⟨(leadsAlike_commonParts lead list).of_isPrefix hbegins, hlists⟩

theorem leadsAlike_commonLead {lists : List (List Regex)} {list : List Regex}
    (h : list ∈ lists) : LeadsAlike text (commonLead lists) list := by
  cases lists with
  | nil => cases h
  | cons first lists =>
    obtain ⟨hbegins, hlists⟩ := leadsAlike_foldl text lists first
    have hfirst : LeadsAlike text first first :=
      ⟨first, [], by simp, List.forall₂_same.mpr fun _ _ _ _ => Iff.rfl⟩
    rcases List.mem_cons.mp h with rfl | h
    · exact hfirst.of_isPrefix hbegins
    · exact hlists list h

theorem spans_ofBranches {rs : List Regex} :
    (ofBranches rs).Spans text start stop ↔ ∃ r ∈ rs, r.Spans text start stop := by
  fun_induction ofBranches rs with
  | case1 => simp [spans_chars, CharSet.empty, CharSet.has, CharSet.contains]; omega
  | case2 r => simp
  | case3 r rs _ ih => simp [spans_alt, ih]

theorem exists_branches {r : Regex} :
    (∃ s ∈ r.branches, s.Spans text start stop) ↔ r.Spans text start stop := by
  fun_induction branches r with
  | case1 first second ih ih' =>
    simp only [List.mem_append, or_and_right, exists_or, ih, ih', spans_alt]
  | case2 r => simp

theorem exists_flatMap_branches {rs : List Regex} :
    (∃ s ∈ rs.flatMap branches, s.Spans text start stop) ↔
      ∃ r ∈ rs, r.Spans text start stop := by
  simp only [List.mem_flatMap]
  constructor
  · rintro ⟨s, ⟨r, hr, hs⟩, hspans⟩
    exact ⟨r, hr, exists_branches.mp ⟨s, hs, hspans⟩⟩
  · rintro ⟨r, hr, hspans⟩
    obtain ⟨s, hs, hspans⟩ := exists_branches.mpr hspans
    exact ⟨s, ⟨r, hr, hs⟩, hspans⟩

theorem eq_map_chars {rs : List Regex} {sets : List CharSet} (h : rs.mapM set? = some sets) :
    rs = sets.map chars := by
  induction rs generalizing sets with
  | nil =>
    cases h
    rfl
  | cons r rs ih =>
    rw [List.mapM_cons] at h
    simp only [Option.bind_eq_bind, Option.bind_eq_some_iff] at h
    obtain ⟨set, hset, rest, hrest, hsets⟩ := h
    cases hsets
    cases r <;> cases hset
    rw [ih hrest, List.map_cons]

theorem spans_united? {rs : List Regex} {set : CharSet} (h : united? rs = some set) :
    (chars set).Spans text start stop ↔ ∃ r ∈ rs, r.Spans text start stop := by
  unfold united? at h
  obtain ⟨sets, hsets, h⟩ := Option.bind_eq_some_iff.mp h
  obtain ⟨_, _, hset⟩ := Option.bind_eq_some_iff.mp h
  cases hset
  rw [eq_map_chars hsets, spans_chars]
  constructor
  · rintro ⟨rfl, c, hc, hhas⟩
    obtain ⟨set, hset, hhas⟩ := CharSet.has_ofList.mp hhas
    exact ⟨.chars set, List.mem_map_of_mem hset, .chars hc hhas⟩
  · rintro ⟨_, hr, hspans⟩
    obtain ⟨set, hset, rfl⟩ := List.mem_map.mp hr
    obtain ⟨rfl, c, hc, hhas⟩ := spans_chars.mp hspans
    exact ⟨rfl, c, hc, CharSet.has_ofList.mpr ⟨set, hset, hhas⟩⟩

/-- What the branches share is taken off their front, and what is left of them decides. -/
theorem spans_lifted {rs : List Regex} {rest : Regex}
    (hrest : ∀ {middle}, rest.Spans text middle stop ↔
      ∃ r ∈ (rs.map parts).map fun list => ofParts (list.drop (commonLead (rs.map parts)).length),
        r.Spans text middle stop) :
    (sequence (commonLead (rs.map parts) ++ [rest])).Spans text start stop ↔
      ∃ r ∈ rs, r.Spans text start stop := by
  have hspans {r : Regex} (hr : r ∈ rs) : r.Spans text start stop ↔
      ∃ middle, SpansAll text (commonLead (rs.map parts)) start middle ∧
        (ofParts (r.parts.drop (commonLead (rs.map parts)).length)).Spans text middle stop := by
    rw [← spansAll_parts, (leadsAlike_commonLead (List.mem_map_of_mem hr)).spansAll]
    simp only [spans_ofParts]
  simp only [spans_sequence, spansAll_append, SpansAll, exists_eq_right, hrest]
  constructor
  · rintro ⟨middle, hlead, _, hmem, hstop⟩
    obtain ⟨_, hlist, rfl⟩ := List.mem_map.mp hmem
    obtain ⟨r, hr, rfl⟩ := List.mem_map.mp hlist
    exact ⟨r, hr, (hspans hr).mpr ⟨middle, hlead, hstop⟩⟩
  · rintro ⟨r, hr, hstop⟩
    obtain ⟨middle, hlead, hstop⟩ := (hspans hr).mp hstop
    exact ⟨middle, hlead, _, List.mem_map_of_mem (List.mem_map_of_mem hr), hstop⟩

theorem spans_choiceWith {fuel : Nat} {rs : List Regex} :
    (choiceWith fuel rs).Spans text start stop ↔ ∃ r ∈ rs, r.Spans text start stop := by
  induction fuel generalizing rs start with
  -- Fuel that ends early leaves the branches as they are.
  | zero => rw [choiceWith, spans_ofBranches, exists_flatMap_branches]
  | succ fuel ih =>
    rw [choiceWith, ← exists_flatMap_branches]
    dsimp only
    split
    · exact spans_ofBranches
    · split
      · next set hset => exact spans_united? hset
      · split
        · exact spans_ofBranches
        · exact spans_lifted ih

/-- A choice matches what one of its branches does, also where it is put in another form. -/
theorem spans_choice {rs : List Regex} :
    (choice rs).Spans text start stop ↔ ∃ r ∈ rs, r.Spans text start stop :=
  spans_choiceWith

end TextGrammar.Regex
