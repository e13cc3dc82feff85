import Mathlib

/-!
# Keyset paging

A page of a list in the order of a key is what comes after a cursor, cut to some length; the cursor of
the next page is the last record shown.  Where the list is spread over several sources, each source is
asked for its own first records only, and the answers are merged.

No record is lost to the limits of the sources (`take_merge`), and the pages put together are the list
(`Pages.flatMap_records`).
-/

namespace Paging

variable {ρ κ : Type} [LinearOrder κ] (key : ρ → κ)

/-! ## Lists in the order of a key -/

/-- In the order of the keys, no key twice. -/
def Ascending (l : List ρ) : Prop := l.Pairwise fun a b ↦ key a < key b

/-- The list in the order of the keys. -/
def sortBy (l : List ρ) : List ρ := l.insertionSort fun a b ↦ key a ≤ key b

@[simp] theorem mem_sortBy {l : List ρ} {r : ρ} : r ∈ sortBy key l ↔ r ∈ l :=
  List.mem_insertionSort _

@[simp] theorem length_sortBy (l : List ρ) : (sortBy key l).length = l.length :=
  List.length_insertionSort _ l

variable {key} {l l' : List ρ} {r : ρ} {n : ℕ}

theorem ascending_sortBy (h : (l.map key).Nodup) : Ascending key (sortBy key l) := by
  have hle : (sortBy key l).Pairwise fun a b ↦ key a ≤ key b :=
    haveI : Std.Total fun a b : ρ ↦ key a ≤ key b := ⟨fun a b ↦ le_total (key a) (key b)⟩
    haveI : IsTrans ρ fun a b ↦ key a ≤ key b := ⟨fun _ _ _ ↦ le_trans⟩
    List.pairwise_insertionSort _ l
  have hne : (sortBy key l).Pairwise fun a b ↦ key a ≠ key b := by
    have hperm : ((sortBy key l).map key).Perm (l.map key) := (List.perm_insertionSort _ l).map key
    exact List.pairwise_map.mp (hperm.nodup_iff.mpr h)
  exact hle.imp₂ (fun _ _ ↦ lt_of_le_of_ne) hne

theorem Ascending.nodup (h : Ascending key l) : l.Nodup :=
  h.imp fun hlt heq ↦ absurd (congrArg key heq) hlt.ne

theorem Ascending.of_cons {a : ρ} (h : Ascending key (a :: l)) : Ascending key l :=
  List.Pairwise.of_cons h

theorem Ascending.head_lt {a : ρ} (h : Ascending key (a :: l)) (hr : r ∈ l) : key a < key r :=
  List.rel_of_pairwise_cons h hr

/-- Of two lists in order, one between the other and its first `n` records has the same first `n`. -/
theorem Ascending.take_eq (hl : Ascending key l) (hl' : Ascending key l') (hsub : l' ⊆ l)
    (hsup : l.take n ⊆ l') : l'.take n = l.take n := by
  induction l generalizing l' n with
  | nil => rw [List.eq_nil_of_subset_nil hsub]
  | cons a l ih =>
    cases n with
    | zero => simp
    | succ n =>
      have ha : a ∈ l' := hsup (by simp)
      cases l' with
      | nil => cases ha
      | cons b t =>
        -- the first record of both lists is the least
        obtain rfl : b = a := by
          rcases List.mem_cons.mp ha with rfl | hat
          · rfl
          · rcases List.mem_cons.mp (hsub List.mem_cons_self) with rfl | hbl
            · rfl
            · exact absurd (hl'.head_lt hat) (hl.head_lt hbl).asymm
        rw [List.take_succ_cons, List.take_succ_cons]
        refine congrArg (b :: ·) (ih hl.of_cons hl'.of_cons (fun r hr ↦ ?_) fun r hr ↦ ?_)
        · exact (List.mem_cons.mp (hsub (List.mem_cons_of_mem _ hr))).resolve_left fun h ↦
            absurd (hl'.head_lt hr) (h ▸ lt_irrefl _)
        · exact (List.mem_cons.mp (hsup (List.mem_cons_of_mem _ hr))).resolve_left fun h ↦
            absurd (hl.head_lt (List.mem_of_mem_take hr)) (h ▸ lt_irrefl _)

/-- A list in order is known by its members. -/
theorem Ascending.ext (hl : Ascending key l) (hl' : Ascending key l')
    (h : ∀ r, r ∈ l' ↔ r ∈ l) : l' = l := by
  have htake := hl.take_eq (n := l.length + l'.length) hl' (fun r hr ↦ (h r).mp hr)
    fun r hr ↦ (h r).mpr (List.mem_of_mem_take hr)
  rwa [List.take_of_length_le (by omega), List.take_of_length_le (by omega)] at htake

theorem Ascending.filter (h : Ascending key l) (p : ρ → Bool) : Ascending key (l.filter p) :=
  List.Pairwise.filter p h

/-- The first `n` of a list in order are those with less than `n` before them. -/
theorem Ascending.mem_take (h : Ascending key l) :
    r ∈ l.take n ↔ r ∈ l ∧ l.countP (key · < key r) < n := by
  induction l generalizing n with
  | nil => simp
  | cons a l ih =>
    cases n with
    | zero => simp
    | succ n =>
      rw [List.take_succ_cons, List.mem_cons, List.mem_cons, ih h.of_cons, List.countP_cons]
      by_cases har : key a < key r
      · have hne : r ≠ a := fun heq ↦ absurd har (heq ▸ lt_irrefl _)
        simp [hne, har]
      · have hcount : r = a → l.countP (key · < key r) = 0 := fun heq ↦
          List.countP_eq_zero.mpr fun b hb ↦ by simpa [heq] using (h.head_lt hb).le
        have hnot : r ∉ l := fun hr ↦ har (h.head_lt hr)
        constructor
        · rintro (heq | ⟨hr, -⟩)
          · exact ⟨.inl heq, by simp [hcount heq, har]⟩
          · exact absurd hr hnot
        · rintro ⟨heq | hr, -⟩
          · exact .inl heq
          · exact absurd hr hnot

/-- A record among the first `n` is among the first `n` of every part of the list it is in. -/
theorem Ascending.mem_take_of_subset (hl : Ascending key l) (hl' : Ascending key l') (hsub : l' ⊆ l)
    (hr : r ∈ l.take n) (hr' : r ∈ l') : r ∈ l'.take n := by
  refine hl'.mem_take.mpr ⟨hr', lt_of_le_of_lt ?_ (hl.mem_take.mp hr).2⟩
  exact (List.subperm_of_subset hl'.nodup hsub).countP_le _

/-! ## Merging -/

/-- Nothing among the first `n` is lost by asking each source for its first `n` only. -/
theorem take_merge {sources : List (List ρ)} (h : (sources.flatten.map key).Nodup) :
    (sortBy key (sources.map fun s ↦ (sortBy key s).take n).flatten).take n =
      (sortBy key sources.flatten).take n := by
  have hsublist : (sources.map fun s ↦ (sortBy key s).take n).flatten.Subperm sources.flatten := by
    clear h
    induction sources with
    | nil => exact .refl _
    | cons s sources ih =>
      have htake : ((sortBy key s).take n).Subperm s :=
        (List.take_sublist _ _).subperm.trans (List.perm_insertionSort _ s).subperm
      exact ((List.subperm_append_right _).mpr htake).trans ((List.subperm_append_left s).mpr ih)
  have hnodup : ((sources.map fun s ↦ (sortBy key s).take n).flatten.map key).Nodup := by
    obtain ⟨l, hperm, hsub⟩ := hsublist
    exact (hperm.map key).nodup_iff.mp (h.sublist (hsub.map key))
  have hall := ascending_sortBy h
  refine hall.take_eq (ascending_sortBy hnodup) (fun r hr ↦ ?_) fun r hr ↦ ?_
  · rw [mem_sortBy] at hr ⊢
    exact hsublist.subset hr
  · obtain ⟨s, hs, hrs⟩ := List.mem_flatten.mp ((mem_sortBy key).mp (List.mem_of_mem_take hr))
    have hsource : s.Sublist sources.flatten := List.sublist_flatten_of_mem hs
    have hascending : Ascending key (sortBy key s) := ascending_sortBy (h.sublist (hsource.map key))
    refine (mem_sortBy key).mpr (List.mem_flatten.mpr ⟨_, List.mem_map.mpr ⟨s, hs, rfl⟩, ?_⟩)
    refine hall.mem_take_of_subset hascending (fun r' hr' ↦ ?_) hr ((mem_sortBy key).mpr hrs)
    exact (mem_sortBy key).mpr (hsource.subset ((mem_sortBy key).mp hr'))

/-- Two lists that agree on their first `n + 1` records agree on whether there are more than `n`. -/
theorem lt_length_iff_of_take_eq (h : l'.take (n + 1) = l.take (n + 1)) :
    n < l'.length ↔ n < l.length := by
  have hlength := congrArg List.length h
  rw [List.length_take, List.length_take] at hlength
  omega

/-- What comes after the last of the first `n` records. -/
theorem Ascending.filter_after (h : Ascending key l) {last : ρ} (hlast : (l.take n).getLast? = some last) :
    l.filter (key last < key ·) = l.drop n := by
  have hsplit := List.take_append_drop n l
  obtain ⟨t, ht⟩ := List.getLast?_eq_some_iff.mp hlast
  have hpair : Ascending key (l.take n ++ l.drop n) := by rwa [hsplit]
  obtain ⟨htake, -, hcross⟩ := List.pairwise_append.mp hpair
  rw [ht] at htake hcross
  calc l.filter (key last < key ·)
      = (l.take n).filter (key last < key ·) ++ (l.drop n).filter (key last < key ·) := by
        rw [← List.filter_append, hsplit]
    _ = [] ++ l.drop n := ?_
    _ = l.drop n := List.nil_append _
  congr 1
  · refine List.filter_eq_nil_iff.mpr fun r hr ↦ ?_
    rw [ht] at hr
    rw [decide_eq_true_eq]
    rcases List.mem_append.mp hr with hr | hr
    · exact ((List.pairwise_append.mp htake).2.2 r hr last (List.mem_singleton_self _)).asymm
    · exact List.mem_singleton.mp hr ▸ lt_irrefl _
  · refine List.filter_eq_self.mpr fun r hr ↦ decide_eq_true ?_
    exact hcross last (by simp) r hr

/-! ## Reading page by page -/

/-- A page, with the cursor of the next one. -/
structure Page (ρ γ : Type) where
  records : List ρ
  hasMore : Bool
  cursor : Option γ

/-- The pages someone reads who follows the cursors until a page says that there is no more. -/
inductive Reads {γ : Type} (fetched : Option γ → Page ρ γ → Prop) :
    Option γ → List (Page ρ γ) → Prop
  | last {start : Option γ} {page : Page ρ γ} (hpage : fetched start page)
    (hmore : page.hasMore = false) : Reads fetched start [page]
  | next {start : Option γ} {page : Page ρ γ} {cursor : γ} {pages : List (Page ρ γ)}
    (hpage : fetched start page) (hmore : page.hasMore = true) (hcursor : page.cursor = some cursor)
    (hpages : Reads fetched (some cursor) pages) : Reads fetched start (page :: pages)

/-- What is fetched are the first `n` of what remains after the cursor. -/
structure Pages {γ : Type} (n : ℕ) (remaining : Option γ → List ρ)
    (fetched : Option γ → Page ρ γ → Prop) : Prop where
  exists_page : ∀ start, ∃ page, fetched start page
  records : ∀ {start page}, fetched start page → page.records = (remaining start).take n
  hasMore : ∀ {start page}, fetched start page →
    (page.hasMore = true ↔ n < (remaining start).length)
  cursor : ∀ {start page}, fetched start page → page.hasMore = true →
    ∃ cursor, page.cursor = some cursor ∧ remaining (some cursor) = (remaining start).drop n

namespace Pages

variable {γ : Type} {remaining : Option γ → List ρ} {fetched : Option γ → Page ρ γ → Prop}
  {start : Option γ} {pages : List (Page ρ γ)}

/-- The pages put together are all that remained. -/
theorem flatMap_records (h : Pages n remaining fetched) (hreads : Reads fetched start pages) :
    pages.flatMap (·.records) = remaining start := by
  induction hreads with
  | @last start page hpage hmore =>
    have hlength : ¬n < (remaining start).length := fun hlt ↦ by
      rw [(h.hasMore hpage).mpr hlt] at hmore
      cases hmore
    rw [List.flatMap_singleton, h.records hpage, List.take_of_length_le (not_lt.mp hlength)]
  | @next start page cursor pages hpage hmore hcursor _ ih =>
    obtain ⟨cursor', hcursor', hrest⟩ := h.cursor hpage hmore
    rw [hcursor] at hcursor'
    cases hcursor'
    rw [List.flatMap_cons, h.records hpage, ih, hrest, List.take_append_drop]

/-- No page has more than `n` records. -/
theorem length_records_le (h : Pages n remaining fetched) (hreads : Reads fetched start pages) :
    ∀ page ∈ pages, page.records.length ≤ n := by
  induction hreads with
  | last hpage _ =>
    intro page hmem
    rw [List.mem_singleton.mp hmem, h.records hpage]
    exact List.length_take_le _ _
  | next hpage _ _ _ ih =>
    intro page hmem
    rcases List.mem_cons.mp hmem with rfl | hmem
    · rw [h.records hpage]
      exact List.length_take_le _ _
    · exact ih page hmem

/-- The reading comes to an end. -/
theorem exists_reads (h : Pages n remaining fetched) (hn : 0 < n) (start : Option γ) :
    ∃ pages, Reads fetched start pages := by
  induction hlength : (remaining start).length using Nat.strong_induction_on generalizing start with
  | _ m ih =>
    obtain ⟨page, hpage⟩ := h.exists_page start
    cases hmore : page.hasMore with
    | false => exact ⟨[page], .last hpage hmore⟩
    | true =>
      obtain ⟨cursor, hcursor, hrest⟩ := h.cursor hpage hmore
      have hlt : n < m := hlength ▸ (h.hasMore hpage).mp hmore
      have hshorter : (remaining (some cursor)).length < m := by
        rw [hrest, List.length_drop]
        omega
      obtain ⟨pages, hpages⟩ := ih _ hshorter (some cursor) rfl
      exact ⟨page :: pages, .next hpage hmore hcursor hpages⟩

end Pages

end Paging
