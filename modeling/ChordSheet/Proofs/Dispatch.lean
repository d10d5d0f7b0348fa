import Mathlib.Data.List.Induction
import Mathlib.Data.List.Perm.Basic
import ChordSheet.Command.Registry

/-!
# The longest name is meant

A registry keeps its entries from the longest name to the shortest, and those of one size in the
order of registration. So the first name that an input calls is the longest one, and of equal names
the one registered first. What an input means is thus a matter of what was registered and not of
when, equal names apart.

* `Registry.Orders` : how a registry keeps what was registered; each registration preserves it.
* `Registry.entries_register` : a registration is a push followed by a stable sort.
* `Registry.Orders.means` : what is found is the longest name that the input calls.
* `Registry.Means.unique` : an input means one thing.
* `Registry.dispatch?_longest` : what an input means after any registrations.
-/

set_option autoImplicit false

namespace ChordSheet

namespace Registry

variable {α : Type} {r : Registry α} {name input argument : String} {meaning : α}
  {es fs kept : List (String × α)}

/-! ## The order of the entries -/

/-- The size of the name of an entry in bytes. -/
def size (e : String × α) : Nat := Text.byteLength e.1.toList

/-- How entries are kept: nothing is lost, longer names come first, and names of one size stay in
the order of registration. -/
structure Orders (registered kept : List (String × α)) : Prop where
  perm : kept.Perm registered
  longest_first : kept.Pairwise fun e f => size f ≤ size e
  stable : ∀ n, kept.filter (fun e => size e = n) = registered.filter fun e => size e = n

theorem insert_perm (name : String) (meaning : α) (es : List (String × α)) :
    (insert name meaning es).Perm (es ++ [(name, meaning)]) := by
  induction es with
  | nil => rfl
  | cons d ds ih =>
    rw [insert]
    split
    · exact @List.perm_append_comm _ [(name, meaning)] _
    · exact ih.cons d

theorem pairwise_insert (h : es.Pairwise fun e f => size f ≤ size e) :
    (insert name meaning es).Pairwise fun e f => size f ≤ size e := by
  induction es with
  | nil => exact List.pairwise_singleton _ _
  | cons d ds ih =>
    obtain ⟨hd, hds⟩ := List.pairwise_cons.mp h
    rw [insert]
    split
    · rename_i hlt
      refine List.pairwise_cons.mpr ⟨?_, h⟩
      intro e he
      rcases List.mem_cons.mp he with rfl | he
      · exact Nat.le_of_lt hlt
      · exact Nat.le_trans (hd e he) (Nat.le_of_lt hlt)
    · rename_i hge
      refine List.pairwise_cons.mpr ⟨?_, ih hds⟩
      intro e he
      rcases mem_insert.mp he with rfl | he
      · exact Nat.le_of_not_lt hge
      · exact hd e he

/-- Among the names of one size a new one comes last. -/
theorem filter_insert (h : es.Pairwise fun e f => size f ≤ size e) (n : Nat) :
    (insert name meaning es).filter (fun e => size e = n) =
      (es ++ [(name, meaning)]).filter fun e => size e = n := by
  induction es with
  | nil => rfl
  | cons d ds ih =>
    obtain ⟨hd, hds⟩ := List.pairwise_cons.mp h
    rw [insert]
    split
    · rename_i hlt
      have hshorter : ∀ e ∈ d :: ds, size e < size (name, meaning) := by
        intro e he
        rcases List.mem_cons.mp he with rfl | he
        · exact hlt
        · exact Nat.lt_of_le_of_lt (hd e he) hlt
      by_cases hn : size (name, meaning) = n
      · have hnone : (d :: ds).filter (fun e => size e = n) = [] := by
          rw [List.filter_eq_nil_iff]
          intro e he
          have := hshorter e he
          simp only [decide_eq_true_eq]
          omega
        rw [List.filter_append, hnone, List.filter_cons, hnone]
        simp [hn]
      · rw [List.filter_append, List.filter_cons]
        simp [hn]
    · rw [List.cons_append, List.filter_cons, List.filter_cons, ih hds]

/-- One more registration comes behind all others of its size. -/
theorem Orders.register (h : Orders es r.entries) (name : String) (meaning : α) :
    Orders (es ++ [(name, meaning)]) (r.register name meaning).entries := by
  refine ⟨?_, pairwise_insert h.longest_first, fun n => ?_⟩
  · exact (insert_perm name meaning r.entries).trans (h.perm.append_right _)
  · rw [Registry.register, filter_insert h.longest_first, List.filter_append, List.filter_append,
      h.stable]

theorem registerAll_concat (es : List (String × α)) (e : String × α) :
    empty.registerAll (es ++ [e]) = (empty.registerAll es).register e.1 e.2 := by
  rw [registerAll, List.foldl_concat]
  rfl

/-- **A registry keeps what was registered in order.** -/
theorem orders_registerAll (es : List (String × α)) :
    Orders es (empty.registerAll es).entries := by
  induction es using List.reverseRecOn with
  | nil => exact ⟨List.Perm.nil, List.Pairwise.nil, fun _ => rfl⟩
  | append_singleton es e ih =>
    rw [registerAll_concat]
    exact ih.register e.1 e.2

/-- **There is one way to keep what was registered.** -/
theorem Orders.unique {also : List (String × α)} (h : Orders es kept) (h' : Orders es also) :
    kept = also := by
  have hperm : kept.Perm also := h.perm.trans h'.perm.symm
  have hstable := fun n => (h.stable n).trans (h'.stable n).symm
  have hsorted := h.longest_first
  have hsorted' := h'.longest_first
  clear h h'
  induction kept generalizing also with
  | nil => exact hperm.nil_eq
  | cons d ds ih =>
    cases also with
    | nil => cases hperm.length_eq
    | cons d' ds' =>
      have hsize : size d = size d' := by
        refine Nat.le_antisymm ?_ ?_
        · rcases List.mem_cons.mp (hperm.mem_iff.mp List.mem_cons_self) with rfl | hmem
          · exact Nat.le_refl _
          · exact (List.pairwise_cons.mp hsorted').1 d hmem
        · rcases List.mem_cons.mp (hperm.mem_iff.mpr List.mem_cons_self) with rfl | hmem
          · exact Nat.le_refl _
          · exact (List.pairwise_cons.mp hsorted).1 d' hmem
      obtain rfl : d = d' := by
        have hfirst := hstable (size d)
        rw [List.filter_cons_of_pos (by simp), List.filter_cons_of_pos (by simp [hsize])] at hfirst
        exact (List.cons.inj hfirst).1
      congr 1
      refine ih hperm.cons_inv (fun n => ?_) hsorted.of_cons hsorted'.of_cons
      have hrest := hstable n
      rw [List.filter_cons, List.filter_cons] at hrest
      split at hrest
      · exact (List.cons.inj hrest).2
      · exact hrest

theorem orders_mergeSort (es : List (String × α)) :
    Orders es (es.mergeSort fun e f => decide (size f ≤ size e)) := by
  have htrans : ∀ a b c : String × α, decide (size b ≤ size a) = true →
      decide (size c ≤ size b) = true → decide (size c ≤ size a) = true := by
    simp only [decide_eq_true_eq]
    exact fun a b c hba hcb => Nat.le_trans hcb hba
  have htotal : ∀ a b : String × α,
      (decide (size b ≤ size a) || decide (size a ≤ size b)) = true := by
    simp only [Bool.or_eq_true, decide_eq_true_eq]
    exact fun a b => Nat.le_total (size b) (size a)
  refine ⟨List.mergeSort_perm _ _, ?_, fun n => ?_⟩
  · simpa using List.pairwise_mergeSort htrans htotal es
  · have hsame : (es.filter fun e => size e = n).Pairwise fun e f => decide (size f ≤ size e) := by
      refine List.pairwise_filter.mpr (List.pairwise_of_forall fun e f he hf => ?_)
      simp only [decide_eq_true_eq] at he hf ⊢
      exact Nat.le_of_eq (hf.trans he.symm)
    -- names of one size are in order as they are, so sorting keeps them, and it keeps no others
    have hkept := (List.sublist_mergeSort htrans htotal hsame List.filter_sublist).filter
      fun e => decide (size e = n)
    simp only [List.filter_filter, Bool.and_self] at hkept
    exact (hkept.eq_of_length ((List.mergeSort_perm es _).filter _).length_eq.symm).symm

theorem insert_eq_mergeSort (h : es.Pairwise fun e f => size f ≤ size e) :
    insert name meaning es =
      (es ++ [(name, meaning)]).mergeSort fun e f => decide (size f ≤ size e) :=
  Orders.unique ⟨insert_perm name meaning es, pairwise_insert h, filter_insert h⟩
    (orders_mergeSort _)

/-- **A registration is a push followed by a stable sort.** -/
theorem entries_register (es : List (String × α)) (name : String) (meaning : α) :
    ((empty.registerAll es).register name meaning).entries =
      ((empty.registerAll es).entries ++ [(name, meaning)]).mergeSort
        fun e f => decide (size f ≤ size e) :=
  insert_eq_mergeSort (orders_registerAll es).longest_first

theorem lookup_filter {p : String × α → Bool} (hp : ∀ e : String × α, e.1 = name → p e = true) :
    (es.filter p).lookup name = es.lookup name := by
  induction es with
  | nil => rfl
  | cons e es ih =>
    obtain ⟨other, m⟩ := e
    by_cases h : other = name
    · rw [List.filter_cons_of_pos (hp _ h)]
      simp [h]
    · have hne : (name == other) = false := beq_false_of_ne (Ne.symm h)
      rw [List.filter_cons]
      split <;> simp [List.lookup_cons, hne, ih]

/-- Of equal names the one registered first is found first. -/
theorem Orders.lookup_eq (h : Orders es kept) (name : String) :
    kept.lookup name = es.lookup name := by
  have hsize : ∀ e : String × α, e.1 = name →
      decide (size e = Text.byteLength name.toList) = true := by
    rintro e rfl
    exact decide_eq_true rfl
  rw [← lookup_filter hsize, h.stable, lookup_filter hsize]

/-! ## Calls -/

/-- An input calls a name if it is the name, or starts with it and a space. -/
def Calls (input name : String) : Prop := input = name ∨ ∃ rest, input = name ++ " " ++ rest

/-- What an input means among the registered entries: the longest name that it calls, with what
was registered first for that name, and the rest without blank margins as the argument. -/
structure Means (registered : List (String × α)) (input name : String) (meaning : α)
    (argument : String) : Prop where
  calls : Calls input name
  first : registered.lookup name = some meaning
  longest : ∀ other ∈ registered.map Prod.fst, Calls input other →
    Text.byteLength other.toList ≤ Text.byteLength name.toList
  argument : ∃ rest, input = name ++ rest ∧ argument = String.ofList (Text.trim rest.toList)

theorem Calls.isPrefix (h : Calls input name) : name.toList <+: input.toList := by
  rcases h with rfl | ⟨rest, rfl⟩
  · exact List.prefix_rfl
  · rw [String.toList_append, String.toList_append, List.append_assoc]
    exact List.prefix_append _ _

theorem callArgument?_toList_eq_some_iff {argument : List Char} :
    callArgument? name.toList input.toList = some argument ↔
      Calls input name ∧ ∃ rest, input = name ++ rest ∧ argument = Text.trim rest.toList := by
  rw [callArgument?_eq_some_iff]
  constructor
  · rintro (⟨hinput, rfl⟩ | ⟨rest, hinput, rfl⟩)
    · obtain rfl := String.toList_inj.mp hinput
      exact ⟨.inl rfl, "", String.append_empty.symm, rfl⟩
    · have hsplit : input = name ++ String.ofList (' ' :: rest) := by
        rw [← String.toList_inj, String.toList_append, String.toList_ofList, hinput]
      refine ⟨.inr ⟨String.ofList rest, ?_⟩, _, hsplit, by rw [String.toList_ofList]⟩
      rw [← String.toList_inj, hinput]
      simp
  · rintro ⟨hcalls, rest, hinput, rfl⟩
    have hrest : ∀ other, input = name ++ other → other = rest := fun _ hother =>
      (String.append_right_inj name).mp (hother.symm.trans hinput)
    rcases hcalls with rfl | ⟨tail, htail⟩
    · rw [← hrest "" String.append_empty.symm]
      exact .inl ⟨rfl, rfl⟩
    · rw [String.append_assoc] at htail
      rw [← hrest _ htail]
      exact .inr ⟨tail.toList, by rw [htail]; simp, by simp⟩

theorem callArgument?_toList_eq_none_iff :
    callArgument? name.toList input.toList = none ↔ ¬ Calls input name := by
  rw [← not_iff_not, not_not, ← ne_eq, Option.ne_none_iff_exists']
  constructor
  · rintro ⟨argument, h⟩
    exact (callArgument?_toList_eq_some_iff.mp h).1
  · intro h
    obtain ⟨rest, hrest⟩ := h.isPrefix
    refine ⟨_, callArgument?_toList_eq_some_iff.mpr ⟨h, String.ofList rest, ?_, rfl⟩⟩
    rw [← String.toList_inj, String.toList_append, String.toList_ofList, hrest]

/-! ## What is found -/

/-- **What is found is the longest name that the input calls.** -/
theorem Orders.means (h : Orders es r.entries)
    (hfound : r.dispatch? input = some (meaning, argument)) :
    ∃ name, Means es input name meaning argument := by
  obtain ⟨before, ⟨name, m⟩, after, hentries, hentry, hbefore⟩ :=
    List.findSome?_eq_some_iff.mp hfound
  obtain ⟨arg, harg, heq⟩ := Option.map_eq_some_iff.mp hentry
  obtain ⟨rfl, rfl⟩ := Prod.mk.inj heq
  obtain ⟨hcalls, rest, hrest, rfl⟩ := callArgument?_toList_eq_some_iff.mp harg
  have hnot : ∀ e ∈ before, ¬ Calls input e.1 := fun e he =>
    callArgument?_toList_eq_none_iff.mp (Option.map_eq_none_iff.mp (hbefore e he))
  refine ⟨name, hcalls, ?_, ?_, rest, hrest, rfl⟩
  · have hnone : before.lookup name = none := by
      rw [List.lookup_eq_none_iff]
      intro e he
      simp only [bne_iff_ne]
      rintro rfl
      exact hnot e he hcalls
    rw [← h.lookup_eq, hentries, List.lookup_append, hnone]
    simp
  · intro other hother hcalled
    obtain ⟨e, he, rfl⟩ := List.mem_map.mp hother
    rw [← h.perm.mem_iff, hentries, List.mem_append, List.mem_cons] at he
    have hsorted := h.longest_first
    rw [hentries, List.pairwise_append, List.pairwise_cons] at hsorted
    rcases he with he | rfl | he
    · exact absurd hcalled (hnot e he)
    · exact Nat.le_refl _
    · exact hsorted.2.1.1 e he

/-- Nothing is found exactly if the input calls no name. -/
theorem Orders.dispatch?_eq_none_iff (h : Orders es r.entries) :
    r.dispatch? input = none ↔ ∀ name ∈ es.map Prod.fst, ¬ Calls input name := by
  simp only [dispatch?, List.findSome?_eq_none_iff, Option.map_eq_none_iff,
    callArgument?_toList_eq_none_iff, h.perm.mem_iff, List.forall_mem_map]

/-- Names of one size that an input calls are the same. -/
theorem Calls.eq_of_byteLength_le {other : String} (h : Calls input name) (ho : Calls input other)
    (hle : Text.byteLength name.toList ≤ Text.byteLength other.toList)
    (hge : Text.byteLength other.toList ≤ Text.byteLength name.toList) : name = other := by
  have heq : ∀ {s t : List Char}, s <+: t → Text.byteLength t ≤ Text.byteLength s → s = t := by
    rintro s _ ⟨rest, rfl⟩ hst
    rw [Text.byteLength_append] at hst
    cases rest with
    | nil => exact (List.append_nil s).symm
    | cons c cs =>
      have := c.utf8Size_pos
      rw [Text.byteLength] at hst
      omega
  rw [← String.toList_inj]
  rcases List.prefix_or_prefix_of_prefix h.isPrefix ho.isPrefix with hp | hp
  · exact heq hp hge
  · exact (heq hp hle).symm

/-- **An input means one thing.** -/
theorem Means.unique {other : String} {m : α} {a : String}
    (h : Means es input name meaning argument) (ho : Means es input other m a) :
    m = meaning ∧ a = argument := by
  have hmem : ∀ {n : String} {v : α}, es.lookup n = some v → n ∈ es.map Prod.fst := by
    intro n v hv
    obtain ⟨l₁, l₂, hsplit, _⟩ := List.lookup_eq_some_iff.mp hv
    simp [hsplit]
  obtain rfl : name = other := h.calls.eq_of_byteLength_le ho.calls
    (ho.longest _ (hmem h.first) h.calls) (h.longest _ (hmem ho.first) ho.calls)
  obtain ⟨rest, hrest, rfl⟩ := h.argument
  obtain ⟨tail, htail, rfl⟩ := ho.argument
  have hsame : tail = rest := (String.append_right_inj name).mp (htail.symm.trans hrest)
  exact ⟨Option.some.inj (ho.first.symm.trans h.first), by rw [hsame]⟩

/-- What an input means is found. -/
theorem Orders.dispatch?_eq_some_iff (h : Orders es r.entries) :
    r.dispatch? input = some (meaning, argument) ↔
      ∃ name, Means es input name meaning argument := by
  refine ⟨h.means, ?_⟩
  rintro ⟨name, hmeans⟩
  cases hfound : r.dispatch? input with
  | none =>
    obtain ⟨l₁, l₂, hsplit, _⟩ := List.lookup_eq_some_iff.mp hmeans.first
    have hname : name ∈ es.map Prod.fst := by simp [hsplit]
    exact absurd hmeans.calls (h.dispatch?_eq_none_iff.mp hfound name hname)
  | some found =>
    obtain ⟨m, a⟩ := found
    obtain ⟨other, hother⟩ := h.means hfound
    obtain ⟨rfl, rfl⟩ := hmeans.unique hother
    rfl

/-! ## Registrations in another order -/

/-- The same registrations in another order, those of equal names in the same order. -/
structure Reordering (es fs : List (String × α)) : Prop where
  perm : es.Perm fs
  equal_names : ∀ e ∈ es, es.filter (fun f => f.1 = e.1) = fs.filter fun f => f.1 = e.1

theorem Reordering.lookup_eq (h : Reordering es fs) (name : String) :
    es.lookup name = fs.lookup name := by
  by_cases hname : ∃ e ∈ es, e.1 = name
  · obtain ⟨e, he, rfl⟩ := hname
    have hself : ∀ f : String × α, f.1 = e.1 → decide (f.1 = e.1) = true := fun f => decide_eq_true
    rw [← lookup_filter hself, h.equal_names e he, lookup_filter hself]
  · have hnone : ∀ e ∈ es, (name != e.1) = true := by
      intro e he
      rw [bne_iff_ne]
      rintro rfl
      exact hname ⟨e, he, rfl⟩
    rw [List.lookup_eq_none_iff.mpr hnone,
      List.lookup_eq_none_iff.mpr fun e he => hnone e (h.perm.mem_iff.mpr he)]

theorem Reordering.means (h : Reordering es fs) (hmeans : Means es input name meaning argument) :
    Means fs input name meaning argument where
  calls := hmeans.calls
  first := (h.lookup_eq name).symm.trans hmeans.first
  longest other hother := hmeans.longest other ((h.perm.map Prod.fst).mem_iff.mpr hother)
  argument := hmeans.argument

theorem Reordering.symm (h : Reordering es fs) : Reordering fs es where
  perm := h.perm.symm
  equal_names e he := (h.equal_names e (h.perm.mem_iff.mpr he)).symm

theorem Reordering.means_iff (h : Reordering es fs) :
    Means es input name meaning argument ↔ Means fs input name meaning argument :=
  ⟨h.means, h.symm.means⟩

/-- **The longest name that an input calls is meant, in whatever order the names were
registered.** After any registrations an input is answered by what was registered first for the
longest name that it calls, with the trimmed rest as the argument, and by nothing exactly if it
calls no name. Registrations in another order answer every input alike if equal names keep their
order. The names are listed from the longest to the shortest, and in the order of registration
where they have one size. -/
theorem dispatch?_longest (es : List (String × α)) :
    (∀ input meaning argument,
      (empty.registerAll es).dispatch? input = some (meaning, argument) ↔
        ∃ name, Means es input name meaning argument) ∧
    (∀ input, (empty.registerAll es).dispatch? input = none ↔
      ∀ name ∈ es.map Prod.fst, ¬ Calls input name) ∧
    (∀ fs, Reordering es fs → ∀ input,
      (empty.registerAll fs).dispatch? input = (empty.registerAll es).dispatch? input) ∧
    (empty.registerAll es).names.Perm (es.map Prod.fst) ∧
    (empty.registerAll es).names.Pairwise (fun name other =>
      Text.byteLength other.toList ≤ Text.byteLength name.toList) ∧
    ∀ n, (empty.registerAll es).names.filter (fun name => Text.byteLength name.toList = n) =
      (es.map Prod.fst).filter fun name => Text.byteLength name.toList = n := by
  have horders := orders_registerAll es
  refine ⟨fun _ _ _ => horders.dispatch?_eq_some_iff, fun _ => horders.dispatch?_eq_none_iff, ?_,
    horders.perm.map _, List.pairwise_map.mpr horders.longest_first, fun n => ?_⟩
  · intro fs hfs input
    apply Option.ext
    rintro ⟨meaning, argument⟩
    rw [horders.dispatch?_eq_some_iff, (orders_registerAll fs).dispatch?_eq_some_iff]
    exact exists_congr fun _ => hfs.means_iff.symm
  · have hstable := congrArg (List.map Prod.fst) (horders.stable n)
    rw [names, List.filter_map, List.filter_map]
    exact hstable

theorem dispatch?_longest_five_names :
    let es := [("a", 0), ("", 1), ("a é", 2), ("é", 3), ("a", 4)]
    let fs := [("é", 3), ("a", 0), ("a é", 2), ("a", 4), ("", 1)]
    Reordering es fs ∧
      (empty.registerAll fs).dispatch? "a é  b " = (empty.registerAll es).dispatch? "a é  b " ∧
      (empty.registerAll es).dispatch? "a é  b " = some (2, "b") ∧
      (empty.registerAll es).dispatch? "a éb" = some (0, "éb") ∧
      (empty.registerAll es).dispatch? "b" = none ∧
      (empty.registerAll es).names = ["a é", "é", "a", "a", ""] := by
  intro es fs
  have hfs : Reordering es fs := ⟨by decide, by decide⟩
  exact ⟨hfs, (dispatch?_longest es).2.2.1 fs hfs _, by decide +kernel, by decide +kernel,
    by decide +kernel, by decide +kernel⟩

end Registry

end ChordSheet
