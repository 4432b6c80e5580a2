import ForumQuery.Proofs.Directory.Lookup
import Mathlib.Data.List.TakeWhile

/-!
# Addresses — every category is found under an address of its own

A directory keeps its categories *apart* (`Directory.Apart`) if no two of them share both their
slug and their parent.  What a slug addresses then is said by three rules (`Directory.Addresses`):
a category at the top by its slug; one directly below it by both slugs, `parent:child`, where the
child may have colons of its own; and where no category at the top has a slug, the earliest
category that has it.

A category at the top is never hidden behind one further down that was added before it, and a pair
never leads to another parent.  So a slug names what it addresses and nothing else
(`Directory.category?_eq_some_iff`).
-/

namespace ForumQuery

/-! ### Slugs and their colons -/

theorem toList_pair (parent child : String) :
    (parent ++ ":" ++ child).toList = parent.toList ++ ':' :: child.toList := by
  rw [String.toList_append, String.toList_append, List.append_assoc]
  rfl

theorem forall_ne_colon {cs : List Char} (h : ':' ∉ cs) : ∀ c ∈ cs, decide (c ≠ ':') = true :=
  fun _ hc => decide_eq_true fun hcolon => h (hcolon ▸ hc)

theorem slugParts_of_notMem {slug : String} (h : ':' ∉ slug.toList) :
    slugParts slug = (slug, none) := by
  have hall := forall_ne_colon h
  rw [slugParts, List.takeWhile_eq_self_iff.2 hall, List.dropWhile_eq_nil_iff.2 hall,
    String.ofList_toList]

/-- A slug is parted at its first colon. -/
theorem slugParts_pair {parent : String} (h : ':' ∉ parent.toList) (child : String) :
    slugParts (parent ++ ":" ++ child) = (parent, some child) := by
  have hall := forall_ne_colon h
  rw [slugParts, toList_pair, List.takeWhile_append_of_pos hall, List.dropWhile_append_of_pos hall,
    List.takeWhile_cons_of_neg (by simp), List.dropWhile_cons_of_neg (by simp), List.append_nil]
  simp only [String.ofList_toList]

/-- A slug with a colon is a pair. -/
theorem exists_pair_of_mem {slug : String} (h : ':' ∈ slug.toList) :
    ∃ parent child, ':' ∉ parent.toList ∧ slug = parent ++ ":" ++ child := by
  obtain ⟨front, back, hslug, hfront⟩ := List.eq_append_cons_of_mem h
  refine ⟨String.ofList front, String.ofList back, by rwa [String.toList_ofList],
    String.toList_injective ?_⟩
  rw [hslug, toList_pair, String.toList_ofList, String.toList_ofList]

namespace Directory

variable {directory : Directory}

theorem category?_of_notMem {slug : String} (h : ':' ∉ slug.toList) :
    directory.category? slug = (directory.below? none slug).or (directory.anywhere? slug) := by
  rw [category?_eq, slugParts_of_notMem h, below?_eq_head?, anywhere?_eq_head?]
  exact List.head?_append

theorem category?_pair {parent : String} (h : ':' ∉ parent.toList) (child : String) :
    directory.category? (parent ++ ":" ++ child) =
      (directory.below? none parent).bind fun category =>
        directory.below? (some category) child := by
  rw [category?_eq, slugParts_pair h]
  simp only [below?_eq_head?]

/-! ### Apart -/

/-- No two categories share both their slug and their parent. -/
def Apart (directory : Directory) : Prop :=
  (directory.categories.map fun entry => (entry.slug, entry.parent)).Nodup

instance (directory : Directory) : Decidable directory.Apart :=
  inferInstanceAs (Decidable (List.Nodup _))

/-- Where the categories are apart, a category is found by its parent and its slug. -/
theorem Apart.below?_eq_some_iff (h : directory.Apart) {parent : Option CategoryId} {slug : String}
    {id : CategoryId} : directory.below? parent slug = some id ↔
      ∃ entry ∈ directory.categories,
        entry.slug = slug ∧ entry.parent = parent ∧ entry.id = id := by
  have hunique : ∀ a ∈ directory.categories, ∀ b ∈ directory.categories,
      decide (a.slug = slug ∧ a.parent = parent) = true →
      decide (b.slug = slug ∧ b.parent = parent) = true → a = b := by
    intro a ha b hb hkeya hkeyb
    obtain ⟨hslug, hparent⟩ := of_decide_eq_true hkeya
    obtain ⟨hslug', hparent'⟩ := of_decide_eq_true hkeyb
    exact List.inj_on_of_nodup_map h ha hb
      (Prod.ext (hslug.trans hslug'.symm) (hparent.trans hparent'.symm))
  simp only [below?, Option.map_eq_some_iff, find?_eq_some_iff_of_unique hunique,
    decide_eq_true_eq, and_assoc]

theorem below?_eq_none_iff {parent : Option CategoryId} {slug : String} :
    directory.below? parent slug = none ↔
      ∀ entry ∈ directory.categories, entry.parent = parent → entry.slug ≠ slug := by
  simp only [below?, Option.map_eq_none_iff, List.find?_eq_none, decide_eq_true_eq, not_and]
  exact forall₂_congr fun _ _ => ⟨fun h hp hs => h hs hp, fun h hs hp => h hp hs⟩

theorem anywhere?_eq_some_iff {slug : String} {id : CategoryId} :
    directory.anywhere? slug = some id ↔
      ∃ before entry after, directory.categories = before ++ entry :: after ∧
        (∀ other ∈ before, other.slug ≠ slug) ∧ entry.slug = slug ∧ entry.id = id := by
  simp only [anywhere?, Option.map_eq_some_iff, List.find?_eq_some_iff_append, decide_eq_true_eq,
    Bool.not_eq_true', decide_eq_false_iff_not]
  constructor
  · rintro ⟨entry, ⟨hslug, before, after, hall, hbefore⟩, hid⟩
    exact ⟨before, entry, after, hall, hbefore, hslug, hid⟩
  · rintro ⟨before, entry, after, hall, hbefore, hslug, hid⟩
    exact ⟨entry, ⟨hslug, before, after, hall, hbefore⟩, hid⟩

/-! ### Addresses -/

/-- What a slug addresses. -/
inductive Addresses (directory : Directory) : String → CategoryId → Prop where
  /-- a category at the top by its slug -/
  | top {entry : CategoryEntry} :
      entry ∈ directory.categories → entry.parent = none → ':' ∉ entry.slug.toList →
      Addresses directory entry.slug entry.id
  /-- a category directly below one at the top by both slugs -/
  | below {parent entry : CategoryEntry} :
      parent ∈ directory.categories → parent.parent = none → ':' ∉ parent.slug.toList →
      entry ∈ directory.categories → entry.parent = some parent.id →
      Addresses directory (parent.slug ++ ":" ++ entry.slug) entry.id
  /-- the earliest category of a slug that none at the top has -/
  | earliest {before after : List CategoryEntry} {entry : CategoryEntry} :
      directory.categories = before ++ entry :: after →
      (∀ other ∈ before, other.slug ≠ entry.slug) →
      (∀ other ∈ directory.categories, other.parent = none → other.slug ≠ entry.slug) →
      ':' ∉ entry.slug.toList →
      Addresses directory entry.slug entry.id

/-- What a slug addresses is what it names. -/
theorem Addresses.category?_eq_some (h : directory.Apart) {slug : String} {id : CategoryId}
    (haddress : directory.Addresses slug id) : directory.category? slug = some id := by
  cases haddress with
  | top hmem htop hcolon =>
      rw [category?_of_notMem hcolon, h.below?_eq_some_iff.2 ⟨_, hmem, rfl, htop, rfl⟩,
        Option.some_or]
  | below hparent htop hcolon hmem hbelow =>
      rw [category?_pair hcolon, h.below?_eq_some_iff.2 ⟨_, hparent, rfl, htop, rfl⟩,
        Option.bind_some, h.below?_eq_some_iff.2 ⟨_, hmem, rfl, hbelow, rfl⟩]
  | earliest hall hbefore hnone hcolon =>
      rw [category?_of_notMem hcolon, below?_eq_none_iff.2 hnone, Option.none_or,
        anywhere?_eq_some_iff.2 ⟨_, _, _, hall, hbefore, rfl, rfl⟩]

/-- What a slug names is what it addresses. -/
theorem addresses_of_category?_eq_some (h : directory.Apart) {slug : String} {id : CategoryId}
    (hnamed : directory.category? slug = some id) : directory.Addresses slug id := by
  by_cases hcolon : ':' ∈ slug.toList
  · obtain ⟨name, child, hname, rfl⟩ := exists_pair_of_mem hcolon
    rw [category?_pair hname] at hnamed
    obtain ⟨category, htop, hbelow⟩ := Option.bind_eq_some_iff.1 hnamed
    obtain ⟨parent, hparent, rfl, hroot, rfl⟩ := h.below?_eq_some_iff.1 htop
    obtain ⟨entry, hmem, rfl, hunder, rfl⟩ := h.below?_eq_some_iff.1 hbelow
    exact .below hparent hroot hname hmem hunder
  · rw [category?_of_notMem hcolon] at hnamed
    rcases Option.or_eq_some_iff.1 hnamed with htop | ⟨hnone, hearliest⟩
    · obtain ⟨entry, hmem, rfl, hroot, rfl⟩ := h.below?_eq_some_iff.1 htop
      exact .top hmem hroot hcolon
    · obtain ⟨before, entry, after, hall, hbefore, rfl, rfl⟩ := anywhere?_eq_some_iff.1 hearliest
      exact .earliest hall hbefore (below?_eq_none_iff.1 hnone) hcolon

/-- **A slug names what it addresses**, where the categories are apart. -/
theorem category?_eq_some_iff (h : directory.Apart) {slug : String} {id : CategoryId} :
    directory.category? slug = some id ↔ directory.Addresses slug id :=
  ⟨addresses_of_category?_eq_some h, Addresses.category?_eq_some h⟩

end Directory

/-- **Every category is addressable.**  Some slugs are answered one by one and in their order, each
with what it addresses; those that address nothing are left out. -/
theorem categories_addressed {directory : Directory} (h : directory.Apart) (slugs : List String) :
    ∃ answers : List (Option CategoryId),
      directory.resolver.categories slugs = .ok (answers.filterMap id) ∧
        List.Forall₂ (fun slug answer => ∀ id, id ∈ answer ↔ directory.Addresses slug id)
          slugs answers := by
  refine ⟨slugs.map directory.category?, ?_, ?_⟩
  · rw [List.filterMap_map]
    rfl
  · rw [List.forall₂_map_right_iff]
    exact List.forall₂_same.2 fun slug _ id => Directory.category?_eq_some_iff h

/-- A category at the top behind one of its slug further down, two further down of one slug, one
with a colon in its slug, and a slug that nothing has. -/
theorem categories_addressed_repeated :
    let directory := (((((∅ : Directory).addCategory ⟨⟨5⟩, "news", some ⟨9⟩⟩).addCategory
      ⟨⟨1⟩, "news", none⟩).addCategory ⟨⟨2⟩, "a:b", some ⟨1⟩⟩).addCategory
      ⟨⟨3⟩, "deep", some ⟨2⟩⟩).addCategory ⟨⟨4⟩, "deep", some ⟨1⟩⟩
    let slugs := ["deep", "news:a:b", "rain", "news", "news:deep"]
    directory.Apart ∧ directory.resolver.categories slugs = .ok [⟨3⟩, ⟨2⟩, ⟨1⟩, ⟨4⟩] ∧
      ∃ answers : List (Option CategoryId),
        directory.resolver.categories slugs = .ok (answers.filterMap id) ∧
          List.Forall₂ (fun slug answer => ∀ id, id ∈ answer ↔ directory.Addresses slug id)
            slugs answers := by
  intro directory slugs
  have hapart : directory.Apart := by decide +kernel
  exact ⟨hapart, by decide +kernel, categories_addressed hapart slugs⟩

end ForumQuery
