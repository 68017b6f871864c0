import Kapture.Go.Str

/-!
# Slash-separated paths

`path.Clean` and `path.Join` (and `filepath`'s on Unix, which agree with them).
Cleaning walks over the elements of a path with a stack: empty elements and `.`
are dropped, `..` takes the element before it away.

Three facts are used later. A clean path that is extended by plain elements stays
the clean path, extended (`clean_append`). A clean path that starts with some
literal `a/` starts with it only because `a` is itself clean
(`dirPrefix_of_hasPrefix`). And a joined path ends in the extension of its file
(`suffix_joinPath`).
-/

namespace Go.Path

open Str

def dot : Str := [46]

def dotDot : Str := [46, 46]

/-- One element of a path, on the stack of those before it, innermost first. -/
def push (rooted : Bool) (stack : List Str) (elem : Str) : List Str :=
  if elem = [] ∨ elem = dot then stack
  else if elem = dotDot then
    match stack with
    | [] => if rooted then [] else [dotDot]
    | top :: rest => if top = dotDot then dotDot :: top :: rest else rest
  else elem :: stack

def rooted (p : Str) : Bool := p.head? == some slash

/-- The elements of the cleaned path, innermost first. -/
def stack (p : Str) : List Str := (split p).foldl (push (rooted p)) []

def render (rooted : Bool) (stack : List Str) : Str :=
  if rooted then slash :: join stack.reverse
  else if stack = [] then dot
  else join stack.reverse

/-- `path.Clean`. -/
def clean (p : Str) : Str := if p = [] then dot else render (rooted p) (stack p)

/-- `path.Join`. -/
def joinPath (elems : List Str) : Str :=
  match elems.dropWhile (· == []) with
  | [] => []
  | es => clean (join es)

/-- What stands in front of the entries of a cleaned directory. -/
def dirPrefix (p : Str) : Str :=
  (if rooted p then [slash] else [])
    ++ if stack p = [] then [] else join (stack p).reverse ++ [slash]

/-- An element that cleaning leaves alone wherever it stands. -/
def Normal (e : Str) : Prop := e ≠ [] ∧ e ≠ dot ∧ e ≠ dotDot ∧ slash ∉ e

instance (e : Str) : Decidable (Normal e) := inferInstanceAs (Decidable (_ ∧ _))

example : clean (lit "a/./b//../c") = lit "a/c" := by decide
example : clean (lit "/../a/") = lit "/a" := by decide
example : clean (lit "../a/../..") = lit "../.." := by decide
example : joinPath [[], lit "data", lit "ns/name"] = lit "data/ns/name" := by decide

/-! ## Splitting and joining -/

variable {e a : Str} {es st : List Str} {r : Bool}

/-- An element with something besides dots in it, and no slash. -/
theorem normal_of_mem {b : UInt8} (hb : b ∈ e) (hdot : b ≠ 46) (hs : slash ∉ e) : Normal e := by
  refine ⟨List.ne_nil_of_mem hb, ?_, ?_, hs⟩
  · rintro rfl
    simp [dot, hdot] at hb
  · rintro rfl
    simp [dotDot, hdot] at hb

theorem slash_notMem_split {s : Str} (h : e ∈ split s) : slash ∉ e := notMem_splitOn h

theorem split_append (a b : Str) : split (a ++ slash :: b) = split a ++ split b :=
  List.splitOn_append_cons_self a b

theorem split_join (h : ∀ e ∈ es, slash ∉ e) (hne : es ≠ []) : split (join es) = es :=
  List.splitOn_intercalate slash h hne

theorem join_split (s : Str) : join (split s) = s :=
  List.intercalate_splitOn slash

theorem join_append {as bs : List Str} (ha : as ≠ []) (hb : bs ≠ []) :
    join (as ++ bs) = join as ++ slash :: join bs := by
  induction as with
  | nil => exact absurd rfl ha
  | cons a as ih =>
      cases as with
      | nil =>
          obtain ⟨b, bs, rfl⟩ := List.exists_cons_of_ne_nil hb
          simp [join, List.intercalate_cons_cons]
      | cons a' as =>
          have := ih (by simp)
          simp only [join, List.cons_append, List.intercalate_cons_cons] at this ⊢
          rw [this]
          simp

theorem join_cons (a : Str) (hne : es ≠ []) : join (a :: es) = a ++ slash :: join es := by
  have h := join_append (List.cons_ne_nil a []) hne
  simpa [join] using h

/-! ## The stack -/

theorem push_normal (h : Normal e) : push r st e = e :: st := by
  obtain ⟨h0, h1, h2, _⟩ := h
  simp [push, h0, h1, h2]

theorem foldl_push_normal (h : ∀ e ∈ es, Normal e) (st : List Str) :
    es.foldl (push r) st = es.reverse ++ st := by
  induction es generalizing st with
  | nil => rfl
  | cons e es ih =>
      rw [List.foldl_cons, push_normal (h e (List.mem_cons_self ..)),
        ih (fun e he => h e (List.mem_cons_of_mem _ he))]
      simp

/-- A stack on which every element was really pushed. -/
def Stable (r : Bool) : List Str → Prop
  | [] => True
  | e :: st => push r st e = e :: st ∧ Stable r st

theorem Stable.push (h : Stable r st) (e : Str) : Stable r (push r st e) := by
  unfold Path.push
  split
  · exact h
  · rename_i he
    split
    · rename_i hd
      subst hd
      split
      · split
        · trivial
        · rename_i hr
          refine ⟨?_, trivial⟩
          simp [Path.push, dotDot, dot, hr]
      · rename_i top rest
        split
        · rename_i ht
          subst ht
          refine ⟨?_, h⟩
          simp [Path.push, dotDot, dot]
        · exact h.2
    · rename_i hd
      refine ⟨?_, h⟩
      simp [Path.push, he, hd]

theorem stable_foldl (es : List Str) (h : Stable r st) : Stable r (es.foldl (push r) st) := by
  induction es generalizing st with
  | nil => exact h
  | cons e es ih => exact ih (h.push e)

theorem stable_stack (p : Str) : Stable (rooted p) (stack p) :=
  stable_foldl (split p) trivial

theorem Stable.of_append (as : List Str) (h : Stable r (as ++ st)) : Stable r st := by
  induction as with
  | nil => exact h
  | cons a as ih => exact ih h.2

theorem Stable.nil_notMem (h : Stable r st) : [] ∉ st := by
  induction st with
  | nil => simp
  | cons e st ih =>
      intro hm
      rcases List.mem_cons.mp hm with rfl | hm
      · have := h.1
        simp [Path.push] at this
      · exact ih h.2 hm

/-- Walking over a stable stack builds it again. -/
theorem Stable.foldl_reverse (h : Stable r st) : st.reverse.foldl (Path.push r) [] = st := by
  induction st with
  | nil => rfl
  | cons e st ih =>
      rw [List.reverse_cons, List.foldl_append, ih h.2]
      exact h.1

theorem slash_notMem_push (hst : ∀ x ∈ st, slash ∉ x) (he : slash ∉ e) :
    ∀ x ∈ push r st e, slash ∉ x := by
  intro x hx
  unfold push at hx
  split at hx
  · exact hst x hx
  · split at hx
    · rename_i hd
      split at hx
      · split at hx
        · simp at hx
        · rw [List.mem_singleton.mp hx]
          decide
      · rename_i top rest
        split at hx
        · rcases List.mem_cons.mp hx with rfl | hx
          · decide
          · exact hst x hx
        · exact hst x (List.mem_cons_of_mem _ hx)
    · rcases List.mem_cons.mp hx with rfl | hx
      · exact he
      · exact hst x hx

theorem slash_notMem_stack {p x : Str} (hx : x ∈ stack p) : slash ∉ x := by
  have h : ∀ (es st : List Str), (∀ x ∈ es, slash ∉ x) → (∀ x ∈ st, slash ∉ x) →
      ∀ x ∈ es.foldl (push (rooted p)) st, slash ∉ x := by
    intro es
    induction es with
    | nil => intro st _ hst; exact hst
    | cons e es ih =>
        intro st hes hst
        exact ih _ (fun x hx => hes x (List.mem_cons_of_mem _ hx))
          (slash_notMem_push hst (hes e (List.mem_cons_self ..)))
  exact h (split p) [] (fun x hx => slash_notMem_split hx) (by simp) x hx

/-! ## Extending a path -/

theorem rooted_append (ha : a ≠ []) (b : Str) : rooted (a ++ b) = rooted a := by
  obtain ⟨x, xs, rfl⟩ := List.exists_cons_of_ne_nil ha
  rfl

theorem stack_append (ha : a ≠ []) (h : ∀ e ∈ es, Normal e) (hne : es ≠ []) :
    stack (a ++ slash :: join es) = es.reverse ++ stack a := by
  have hs : ∀ e ∈ es, slash ∉ e := fun e he => (h e he).2.2.2
  rw [stack, rooted_append ha, split_append, split_join hs hne, List.foldl_append,
    foldl_push_normal h, stack]

/-- **Plain elements after a path stay after the cleaned path.** -/
theorem clean_append (ha : a ≠ []) (h : ∀ e ∈ es, Normal e) (hne : es ≠ []) :
    clean (a ++ slash :: join es) = dirPrefix a ++ join es := by
  have hrev : es.reverse ++ stack a ≠ [] := by simp [hne]
  rw [clean, if_neg (by simp), rooted_append ha, stack_append ha h hne, render, dirPrefix]
  by_cases hst : stack a = []
  · cases rooted a
    · simp [hst, hne]
    · simp [hst]
  · have hst' : (stack a).reverse ≠ [] := by simp [hst]
    simp only [hrev, hst, if_false, List.reverse_append, List.reverse_reverse]
    rw [join_append hst' hne]
    cases rooted a
    · simp
    · simp

theorem dirPrefix_eq_clean (ha : a ≠ []) (hst : stack a ≠ []) :
    dirPrefix a = clean a ++ [slash] := by
  rw [dirPrefix, clean, if_neg ha, render, if_neg hst, if_neg hst]
  cases rooted a
  · rfl
  · rfl

theorem dirPrefix_append (ha : a ≠ []) (h : ∀ e ∈ es, Normal e) (hne : es ≠ []) :
    dirPrefix (a ++ slash :: join es) = dirPrefix a ++ join es ++ [slash] := by
  have hst : stack (a ++ slash :: join es) ≠ [] := by simp [stack_append ha h hne, hne]
  rw [dirPrefix_eq_clean (by simp) hst, clean_append ha h hne]

/-- A path that cleaning leaves alone, and that is not `.` or `/`. -/
def Plain (a : Str) : Prop := a ≠ [] ∧ dirPrefix a = a ++ [slash]

instance (a : Str) : Decidable (Plain a) := inferInstanceAs (Decidable (_ ∧ _))

/-- The elements of a cleaned path with plain elements after it. -/
theorem split_dirPrefix (h : ∀ e ∈ es, Normal e) (hne : es ≠ []) :
    split (dirPrefix a ++ join es)
      = (if rooted a then [[]] else []) ++ ((stack a).reverse ++ es) := by
  have hs : ∀ e ∈ (stack a).reverse ++ es, slash ∉ e := by
    intro e he
    rcases List.mem_append.mp he with he | he
    · exact slash_notMem_stack (List.mem_reverse.mp he)
    · exact (h e he).2.2.2
  have hbody : (if stack a = [] then [] else join (stack a).reverse ++ [slash]) ++ join es
      = join ((stack a).reverse ++ es) := by
    by_cases hst : stack a = []
    · simp [hst]
    · rw [if_neg hst, join_append (by simp [hst]) hne]
      simp
  rw [dirPrefix, List.append_assoc, hbody]
  cases rooted a
  · exact split_join hs (by simp [hne])
  · have := split_append [] (join ((stack a).reverse ++ es))
    simp only [List.nil_append] at this
    simp only [if_true, List.singleton_append]
    rw [this, split_join hs (by simp [hne])]
    rfl

/-- The elements of a rooted path start with an empty one. -/
theorem split_of_rooted (h : rooted a = true) : ∃ b, a = slash :: b ∧ split a = [] :: split b := by
  cases a with
  | nil => simp [rooted] at h
  | cons x b =>
      have hx : x = slash := by simpa [rooted] using h
      subst hx
      exact ⟨b, rfl, split_append [] b⟩

theorem stack_of_split (h : split a = (if rooted a then [[]] else []) ++ es) :
    stack a = es.foldl (push (rooted a)) [] := by
  rw [stack, h, List.foldl_append]
  cases rooted a
  · rfl
  · rfl

/-- **Only a plain literal is a directory in front of a cleaned path.** -/
theorem dirPrefix_of_hasPrefix (ha : a ≠ []) (h : ∀ e ∈ es, Normal e) (hne : es ≠ [])
    (hp : (dirPrefix a ++ join es).hasPrefix (a ++ [slash]) = true) : Plain a := by
  obtain ⟨r, hr⟩ := hasPrefix_iff.mp hp
  -- compare the elements on both sides
  have hsplit : split a ++ split r
      = (if rooted a then [[]] else []) ++ ((stack a).reverse ++ es) := by
    rw [← split_dirPrefix h hne, ← hr, List.append_assoc]
    exact (split_append a r).symm
  obtain ⟨fs, hfs, hpre⟩ : ∃ fs, split a = (if rooted a then [[]] else []) ++ fs
      ∧ fs ++ split r = (stack a).reverse ++ es := by
    cases hroot : rooted a with
    | false =>
        rw [hroot] at hsplit
        exact ⟨split a, rfl, hsplit⟩
    | true =>
        obtain ⟨b, _, hb⟩ := split_of_rooted hroot
        rw [hroot, hb] at hsplit
        exact ⟨split b, hb, List.cons_inj_right _ |>.mp hsplit⟩
  -- the elements of the literal are a part of a stable stack, so they are its own stack
  have hstable : Stable (rooted a) fs.reverse := by
    have hall : Stable (rooted a) (es.reverse ++ stack a) := by
      rw [← foldl_push_normal h]
      exact stable_foldl es (stable_stack a)
    have hrev : es.reverse ++ stack a = (split r).reverse ++ fs.reverse := by
      have := congrArg List.reverse hpre
      simpa using this.symm
    rw [hrev] at hall
    exact hall.of_append
  have hst : stack a = fs.reverse := by
    rw [stack_of_split hfs]
    have := hstable.foldl_reverse
    rwa [List.reverse_reverse] at this
  have hfs0 : fs ≠ [] := by
    rintro rfl
    cases hroot : rooted a with
    | false =>
        rw [hroot] at hfs
        exact List.splitOn_ne_nil slash a hfs
    | true =>
        rw [hroot] at hfs
        have := join_split a
        rw [hfs] at this
        exact ha this.symm
  refine ⟨ha, ?_⟩
  have hne' : stack a ≠ [] := by simp [hst, hfs0]
  have hja : a = (if rooted a then [slash] else []) ++ join fs := by
    conv_lhs => rw [← join_split a, hfs]
    cases rooted a
    · rfl
    · rw [if_pos rfl, if_pos rfl, join_append (by simp) hfs0]
      rfl
  rw [dirPrefix, if_neg hne', hst, List.reverse_reverse, ← List.append_assoc, ← hja]

/-! ## Cleaning twice -/

theorem split_clean (ha : a ≠ []) (hst : stack a ≠ []) :
    split (clean a) = (if rooted a then [[]] else []) ++ (stack a).reverse := by
  have hs : ∀ e ∈ (stack a).reverse, slash ∉ e :=
    fun e he => slash_notMem_stack (List.mem_reverse.mp he)
  rw [clean, if_neg ha, render]
  cases rooted a with
  | false => simpa [hst] using split_join hs (by simp [hst])
  | true =>
      have := split_append [] (join (stack a).reverse)
      rw [List.nil_append, split_join hs (by simp [hst])] at this
      exact this

theorem rooted_clean (ha : a ≠ []) : rooted (clean a) = rooted a := by
  cases hr : rooted a with
  | true =>
      rw [clean, if_neg ha, hr]
      rfl
  | false =>
      by_cases hst : stack a = []
      · rw [clean, if_neg ha, hr, hst]
        rfl
      · -- a rooted path would have an empty element
        by_contra hc
        obtain ⟨b, _, hb⟩ := split_of_rooted (Bool.not_eq_false _ ▸ hc)
        rw [split_clean ha hst, hr] at hb
        have hb' : (stack a).reverse = [] :: split b := hb
        refine (stable_stack a).nil_notMem (List.mem_reverse.mp ?_)
        rw [hb']
        exact List.mem_cons_self ..

theorem stack_clean (ha : a ≠ []) : stack (clean a) = stack a := by
  by_cases hst : stack a = []
  · rw [clean, if_neg ha, hst, render]
    cases rooted a <;> decide
  · rw [stack_of_split (by rw [rooted_clean ha]; exact split_clean ha hst), rooted_clean ha]
    exact (stable_stack a).foldl_reverse

theorem dirPrefix_clean (ha : a ≠ []) : dirPrefix (clean a) = dirPrefix a := by
  rw [dirPrefix, dirPrefix, rooted_clean ha, stack_clean ha]

theorem clean_clean (ha : a ≠ []) : clean (clean a) = clean a := by
  have hne : clean a ≠ [] := by
    intro h
    by_cases hst : stack a = []
    · rw [clean, if_neg ha, hst, render] at h
      revert h
      cases rooted a <;> decide
    · have hs := split_clean ha hst
      rw [h] at hs
      cases hr : rooted a with
      | true =>
          rw [hr] at hs
          have hs' : ([] : Str) :: [] = [] :: (stack a).reverse := hs
          exact hst (List.reverse_eq_nil_iff.mp (List.cons.inj hs').2.symm)
      | false =>
          rw [hr] at hs
          have hs' : [[]] = (stack a).reverse := hs
          refine (stable_stack a).nil_notMem (List.mem_reverse.mp ?_)
          rw [← hs']
          exact List.mem_singleton.mpr rfl
  rw [clean, if_neg hne, rooted_clean ha, stack_clean ha, clean, if_neg ha]

/-- A name before a slash is found only where it stands. -/
theorem prefix_slash_iff {d r : Str} (hd : slash ∉ d) (he : slash ∉ e) :
    d ++ [slash] <+: e ++ slash :: r ↔ d = e := by
  constructor
  · rintro ⟨t, ht⟩
    have hw : ∀ (x y : Str), slash ∉ x → (x ++ slash :: y).takeWhile (· != slash) = x := by
      intro x y hx
      rw [List.takeWhile_append_of_pos]
      · simp
      · intro c hc
        simp only [bne_iff_ne, ne_eq]
        rintro rfl
        exact hx hc
    rw [List.append_assoc, List.singleton_append] at ht
    rw [← hw d t hd, ht, hw e r he]
  · rintro rfl
    exact ⟨r, by simp⟩

/-! ## Elements that climb -/

/-! ## The end of a path -/

/-- A plain last element is the end of the cleaned path. -/
theorem suffix_clean {p : Str} (hp : split p = es ++ [e]) (he : Normal e) : e <:+ clean p := by
  have hne : p ≠ [] := by
    rintro rfl
    have h : es ++ [e] = [] ++ [[]] := hp.symm
    exact he.1 (List.singleton_inj.mp (List.append_inj_right' h rfl))
  have hst : stack p = e :: es.foldl (push (rooted p)) [] := by
    rw [stack, hp, List.foldl_append]
    exact push_normal he
  have hjoin : e <:+ join (stack p).reverse := by
    rw [hst, List.reverse_cons]
    generalize (es.foldl (push (rooted p)) []).reverse = front
    by_cases hf : front = []
    · rw [hf]
      simp [join]
    · rw [join_append hf (List.cons_ne_nil _ _)]
      exact ⟨join front ++ [slash], by simp [join]⟩
  rw [clean, if_neg hne, render]
  split
  · exact hjoin.trans (List.suffix_cons ..)
  · rw [if_neg (by simp [hst])]
    exact hjoin

/-- What follows a path without a slash of its own goes to its last element. -/
theorem split_append_tail (a : Str) :
    ∃ l, slash ∉ l ∧ ∀ ext, slash ∉ ext → split (a ++ ext) = (split a).dropLast ++ [l ++ ext] := by
  have hne : split a ≠ [] := List.splitOn_ne_nil slash a
  obtain ⟨es, l, hsplit⟩ : ∃ es l, split a = es ++ [l] :=
    ⟨_, _, (List.dropLast_append_getLast hne).symm⟩
  have hno : ∀ e ∈ es ++ [l], slash ∉ e := fun e he => slash_notMem_split (hsplit ▸ he)
  refine ⟨l, hno l (by simp), fun ext hs => ?_⟩
  have ha : a ++ ext = join (es ++ [l ++ ext]) := by
    rw [← join_split a, hsplit]
    by_cases hes : es = []
    · simp [hes, join]
    · rw [join_append hes (List.cons_ne_nil _ _), join_append hes (List.cons_ne_nil _ _)]
      simp [join]
  rw [hsplit, List.dropLast_concat, ha, split_join _ (by simp)]
  intro e he
  rcases List.mem_append.mp he with he | he
  · exact hno e (List.mem_append_left _ he)
  · rw [List.mem_singleton.mp he, List.mem_append, not_or]
    exact ⟨hno l (by simp), hs⟩

/-- **A file keeps its extension when its path is joined.** -/
theorem suffix_joinPath (dir a : Str) {ext : Str} {b : UInt8} (hb : b ∈ ext) (hdot : b ≠ 46)
    (hs : slash ∉ ext) : ext <:+ joinPath [dir, a ++ ext] := by
  obtain ⟨l, hl, htail⟩ := split_append_tail a
  have hsplit := htail ext hs
  have hnormal : Normal (l ++ ext) :=
    normal_of_mem (List.mem_append_right _ hb) hdot (by simp [hl, hs])
  have hbase : a ++ ext ≠ [] := List.ne_nil_of_mem (List.mem_append_right _ hb)
  refine (List.suffix_append l ext).trans ?_
  by_cases hd : dir = []
  · subst hd
    have hjoin : joinPath [[], a ++ ext] = clean (a ++ ext) := by
      simp [joinPath, hbase, join]
    rw [hjoin]
    exact suffix_clean hsplit hnormal
  · have hjoin : joinPath [dir, a ++ ext] = clean (dir ++ slash :: (a ++ ext)) := by
      simp [joinPath, hd, join, List.intercalate_cons_cons]
    have hsplit' : split (dir ++ slash :: (a ++ ext)) = (split dir ++ (split a).dropLast)
        ++ [l ++ ext] := by
      rw [split_append, hsplit, List.append_assoc]
    rw [hjoin]
    exact suffix_clean hsplit' hnormal

end Go.Path
