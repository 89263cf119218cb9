import Mathlib

/-!
# Regular expressions with word boundaries

A backtracking matcher tries the ways to match a text in a fixed order and takes the first; a
search tries the places of the text from the left, and a substitution goes on after each match.
A match is described by its characters and by the two next to it. The last part says when
replacing the matches of one expression leaves none of another.
-/

namespace Governor

/-- Regular expressions over characters of any type. -/
inductive Regex (α : Type*) where
  | empty
  | set (p : α → Bool)
  | seq (r s : Regex α)
  /-- `r?`. -/
  | opt (r : Regex α)
  /-- `[p]*`. -/
  | many (p : α → Bool)
  /-- `\b`. -/
  | boundary

namespace Regex

variable {α : Type*}

/-- `r{n}`. -/
def times (r : Regex α) : Nat → Regex α
  | 0 => empty
  | n + 1 => seq r (times r n)

/-- `\br\b`. -/
def bounded (r : Regex α) : Regex α := seq boundary (seq r boundary)

/-- The last character read, once a character and a text are read. -/
theorem getLast?_cons_or (c : α) (m : List α) (prev : Option α) :
    (c :: m).getLast?.or prev = m.getLast?.or (some c) := by
  rw [List.getLast?_cons, Option.some_or]
  cases m.getLast? <;> rfl

section Matching

variable (word : α → Bool)

/-- What the expression matches at the start of a text that has a character before it, in the
order in which it is tried. -/
def matchesAt : Regex α → Option α → List α → List (List α)
  | empty, _, _ => [[]]
  | set _, _, [] => []
  | set p, _, c :: _ => if p c then [[c]] else []
  | seq r s, prev, text => (matchesAt r prev text).flatMap fun m =>
      (matchesAt s (m.getLast?.or prev) (text.drop m.length)).map (m ++ ·)
  | opt r, prev, text => matchesAt r prev text ++ [[]]
  | many p, _, text => (text.takeWhile p).inits.reverse
  | boundary, prev, text => if prev.any word = text.head?.any word then [] else [[]]

/-- The expression accepts a text that stands between two characters. -/
def Accepts : Regex α → Option α → List α → Option α → Prop
  | empty, _, m, _ => m = []
  | set p, _, m, _ => ∃ c, m = [c] ∧ p c = true
  | seq r s, prev, m, next => ∃ a b, m = a ++ b ∧ Accepts r prev a (b.head?.or next) ∧
      Accepts s (a.getLast?.or prev) b next
  | opt r, prev, m, next => m = [] ∨ Accepts r prev m next
  | many p, _, m, _ => ∀ c ∈ m, p c = true
  | boundary, prev, m, next => m = [] ∧ prev.any word ≠ next.any word

end Matching

variable {word : α → Bool} {r s : Regex α} {prev prev' next next' : Option α} {m text : List α}

/-- The matcher tries just what the expression accepts. -/
theorem mem_matchesAt_iff : m ∈ r.matchesAt word prev text ↔
    ∃ rest, text = m ++ rest ∧ r.Accepts word prev m rest.head? := by
  induction r generalizing prev m text with
  | empty =>
    simp only [matchesAt, Accepts, List.mem_singleton]
    constructor
    · rintro rfl
      exact ⟨text, rfl, rfl⟩
    · rintro ⟨rest, -, rfl⟩
      rfl
  | set p =>
    cases text with
    | nil =>
      simp only [matchesAt, Accepts, List.not_mem_nil, false_iff]
      rintro ⟨rest, h, c, rfl, -⟩
      cases h
    | cons c text =>
      simp only [matchesAt, Accepts]
      constructor
      · intro h
        split_ifs at h with hp
        · obtain rfl := List.mem_singleton.mp h
          exact ⟨text, rfl, c, rfl, hp⟩
        · cases h
      · rintro ⟨rest, h, d, rfl, hp⟩
        obtain ⟨rfl, rfl⟩ := List.cons.inj h
        rw [if_pos hp]
        exact List.mem_singleton_self _
  | seq r s ihr ihs =>
    simp only [matchesAt, Accepts, List.mem_flatMap, List.mem_map]
    constructor
    · rintro ⟨a, ha, b, hb, rfl⟩
      obtain ⟨rest, rfl, hra⟩ := ihr.mp ha
      rw [List.drop_left] at hb
      obtain ⟨rest, rfl, hsb⟩ := ihs.mp hb
      rw [List.head?_append] at hra
      exact ⟨rest, (List.append_assoc _ _ _).symm, a, b, rfl, hra, hsb⟩
    · rintro ⟨rest, rfl, a, b, rfl, hra, hsb⟩
      refine ⟨a, ihr.mpr ⟨b ++ rest, List.append_assoc _ _ _, ?_⟩, b, ihs.mpr ⟨rest, ?_, hsb⟩, rfl⟩
      · rwa [List.head?_append]
      · rw [List.append_assoc, List.drop_left]
  | opt r ih =>
    simp only [matchesAt, Accepts, List.mem_append, List.mem_singleton, ih]
    constructor
    · rintro (⟨rest, rfl, h⟩ | rfl)
      · exact ⟨rest, rfl, Or.inr h⟩
      · exact ⟨text, rfl, Or.inl rfl⟩
    · rintro ⟨rest, rfl, rfl | h⟩
      · exact Or.inr rfl
      · exact Or.inl ⟨rest, rfl, h⟩
  | many p =>
    simp only [matchesAt, Accepts, List.mem_reverse, List.mem_inits]
    constructor
    · intro h
      obtain ⟨rest, rfl⟩ := h.trans (List.takeWhile_prefix p)
      exact ⟨rest, rfl, fun c hc => List.mem_takeWhile_imp (h.subset hc)⟩
    · rintro ⟨rest, rfl, h⟩
      rw [List.takeWhile_append_of_pos h]
      exact List.prefix_append _ _
  | boundary =>
    simp only [matchesAt, Accepts]
    constructor
    · intro h
      split_ifs at h with hsame
      · cases h
      · obtain rfl := List.mem_singleton.mp h
        exact ⟨text, rfl, rfl, hsame⟩
    · rintro ⟨rest, rfl, rfl, hne⟩
      rw [List.nil_append, if_neg hne]
      exact List.mem_singleton_self _

/-- Of the characters around a match only their kind counts. -/
theorem accepts_congr (hprev : prev.any word = prev'.any word)
    (hnext : next.any word = next'.any word) :
    r.Accepts word prev m next ↔ r.Accepts word prev' m next' := by
  induction r generalizing prev prev' m next next' with
  | empty => exact Iff.rfl
  | set p => exact Iff.rfl
  | seq r s ihr ihs =>
    simp only [Accepts]
    refine exists₂_congr fun a b => and_congr_right fun _ => and_congr (ihr hprev ?_) (ihs ?_ hnext)
    · cases b <;> simp [hnext]
    · cases a.getLast? <;> simp [hprev]
  | opt r ih =>
    simp only [Accepts]
    exact or_congr Iff.rfl (ih hprev hnext)
  | many p => exact Iff.rfl
  | boundary =>
    simp only [Accepts, hprev, hnext]

/-! ## What an expression can start and end with -/

/-- The expression may accept the empty text. -/
def nullable : Regex α → Bool
  | empty | opt _ | many _ | boundary => true
  | set _ => false
  | seq r s => r.nullable && s.nullable

/-- The character may occur in an accepted text. -/
def chars : Regex α → α → Bool
  | empty, _ | boundary, _ => false
  | set p, c | many p, c => p c
  | opt r, c => r.chars c
  | seq r s, c => r.chars c || s.chars c

/-- The character may be the first of an accepted text. -/
def firsts : Regex α → α → Bool
  | empty, _ | boundary, _ => false
  | set p, c | many p, c => p c
  | opt r, c => r.firsts c
  | seq r s, c => r.firsts c || (r.nullable && s.firsts c)

/-- The character may be the last of an accepted text. -/
def lasts : Regex α → α → Bool
  | empty, _ | boundary, _ => false
  | set p, c | many p, c => p c
  | opt r, c => r.lasts c
  | seq r s, c => s.lasts c || (s.nullable && r.lasts c)

theorem Accepts.nullable (h : r.Accepts word prev [] next) : r.nullable = true := by
  induction r generalizing prev next with
  | empty | opt | many | boundary => rfl
  | set p =>
    obtain ⟨c, hc, -⟩ := h
    cases hc
  | seq r s ihr ihs =>
    obtain ⟨a, b, hab, hr, hs⟩ := h
    obtain ⟨rfl, rfl⟩ := List.append_eq_nil_iff.mp hab.symm
    simp only [Regex.nullable, ihr hr, ihs hs, Bool.and_true]

theorem Accepts.chars {c : α} (h : r.Accepts word prev m next) (hc : c ∈ m) :
    r.chars c = true := by
  induction r generalizing prev m next with
  | empty =>
    rw [h] at hc
    cases hc
  | set p =>
    obtain ⟨d, rfl, hp⟩ := h
    rwa [List.mem_singleton.mp hc]
  | seq r s ihr ihs =>
    obtain ⟨a, b, rfl, hr, hs⟩ := h
    rw [Regex.chars, Bool.or_eq_true]
    exact (List.mem_append.mp hc).imp (ihr hr) (ihs hs)
  | opt r ih =>
    rcases h with rfl | h
    · cases hc
    · exact ih h hc
  | many p => exact h c hc
  | boundary =>
    rw [h.1] at hc
    cases hc

theorem Accepts.firsts {c : α} (h : r.Accepts word prev m next) (hc : m.head? = some c) :
    r.firsts c = true := by
  induction r generalizing prev m next with
  | empty =>
    rw [h] at hc
    cases hc
  | set p =>
    obtain ⟨d, rfl, hp⟩ := h
    obtain rfl := Option.some.inj hc
    exact hp
  | seq r s ihr ihs =>
    obtain ⟨a, b, rfl, hr, hs⟩ := h
    rw [Regex.firsts, Bool.or_eq_true, Bool.and_eq_true]
    cases a with
    | nil => exact Or.inr ⟨hr.nullable, ihs hs hc⟩
    | cons d a => exact Or.inl (ihr hr hc)
  | opt r ih =>
    rcases h with rfl | h
    · cases hc
    · exact ih h hc
  | many p => exact h c (List.mem_of_head? hc)
  | boundary =>
    rw [h.1] at hc
    cases hc

theorem Accepts.lasts {c : α} (h : r.Accepts word prev m next) (hc : m.getLast? = some c) :
    r.lasts c = true := by
  induction r generalizing prev m next with
  | empty =>
    rw [h] at hc
    cases hc
  | set p =>
    obtain ⟨d, rfl, hp⟩ := h
    obtain rfl := Option.some.inj hc
    exact hp
  | seq r s ihr ihs =>
    obtain ⟨a, b, rfl, hr, hs⟩ := h
    rw [Regex.lasts, Bool.or_eq_true, Bool.and_eq_true]
    rw [List.getLast?_append] at hc
    cases hb : b.getLast? with
    | none =>
      rw [hb, Option.none_or] at hc
      obtain rfl := List.getLast?_eq_none_iff.mp hb
      exact Or.inr ⟨hs.nullable, ihr hr hc⟩
    | some d =>
      rw [hb, Option.some_or] at hc
      exact Or.inl (ihs hs (hb.trans hc))
  | opt r ih =>
    rcases h with rfl | h
    · cases hc
    · exact ih h hc
  | many p => exact h c (List.mem_of_getLast? hc)
  | boundary =>
    rw [h.1] at hc
    cases hc

/-- Every accepted text starts and ends with a word character and stands alone. -/
structure Bordered (word : α → Bool) (r : Regex α) : Prop where
  begins : ∀ {prev m next}, r.Accepts word prev m next →
    ∃ c, m.head? = some c ∧ word c = true ∧ prev.any word = false
  ends : ∀ {prev m next}, r.Accepts word prev m next →
    ∃ c, m.getLast? = some c ∧ word c = true ∧ next.any word = false

theorem Bordered.ne_nil (h : r.Bordered word) (hm : r.Accepts word prev m next) : m ≠ [] := by
  rintro rfl
  obtain ⟨c, hc, -⟩ := h.begins hm
  cases hc

/-- An expression of word characters at both ends is bordered between two boundaries. -/
theorem bordered_bounded (hnullable : r.nullable = false)
    (hfirst : ∀ c, r.firsts c = true → word c = true)
    (hlast : ∀ c, r.lasts c = true → word c = true) : (bounded r).Bordered word := by
  have hsplit : ∀ {prev m next}, (bounded r).Accepts word prev m next →
      m ≠ [] ∧ r.Accepts word prev m next ∧ prev.any word ≠ m.head?.any word ∧
        m.getLast?.any word ≠ next.any word := by
    rintro prev m next ⟨a, b, rfl, ⟨rfl, hprev⟩, a', b', rfl, hr, rfl, hnext⟩
    rw [List.append_nil, List.nil_append]
    have hne : a' ≠ [] := by
      rintro rfl
      rw [hr.nullable] at hnullable
      cases hnullable
    obtain ⟨c, hc⟩ := Option.ne_none_iff_exists'.mp (mt List.head?_eq_none_iff.mp hne)
    obtain ⟨d, hd⟩ := Option.ne_none_iff_exists'.mp (mt List.getLast?_eq_none_iff.mp hne)
    simp only [List.append_nil, List.head?_nil, List.getLast?_nil, Option.none_or, hc, hd,
      Option.some_or] at hprev hr hnext
    rw [hc, hd]
    exact ⟨hne, hr, hprev, hnext⟩
  constructor
  · intro prev m next h
    obtain ⟨hne, hr, hprev, -⟩ := hsplit h
    obtain ⟨c, hc⟩ := Option.ne_none_iff_exists'.mp (mt List.head?_eq_none_iff.mp hne)
    have hword := hfirst c (hr.firsts hc)
    rw [hc, Option.any_some, hword] at hprev
    exact ⟨c, hc, hword, Bool.eq_false_of_not_eq_true hprev⟩
  · intro prev m next h
    obtain ⟨hne, hr, -, hnext⟩ := hsplit h
    obtain ⟨c, hc⟩ := Option.ne_none_iff_exists'.mp (mt List.getLast?_eq_none_iff.mp hne)
    have hword := hlast c (hr.lasts hc)
    rw [hc, Option.any_some, hword] at hnext
    exact ⟨c, hc, hword, Bool.eq_false_of_not_eq_true hnext.symm⟩

/-! ## Searching and replacing -/

/-- A piece of a text that was scanned for matches. -/
inductive Piece (α : Type*) where
  | kept (c : α)
  | hit (m : List α)

namespace Piece

/-- What the piece was. -/
def read : Piece α → List α
  | kept c => [c]
  | hit m => m

/-- What the piece becomes. -/
def write (replacement : List α) : Piece α → List α
  | kept c => [c]
  | hit _ => replacement

end Piece

variable (word) in
/-- The expression matches somewhere in the rest of a text. -/
def searchFrom (r : Regex α) : Option α → List α → Bool
  | prev, [] => !(r.matchesAt word prev []).isEmpty
  | prev, c :: rest => !(r.matchesAt word prev (c :: rest)).isEmpty || searchFrom r (some c) rest

variable (word) in
/-- Cut the rest of a text into matches and other characters; the first `skip` characters belong
to the last match. An empty match is followed by the next character. -/
def scanFrom (r : Regex α) : Option α → Nat → List α → List (Piece α)
  | prev, 0, [] => ((r.matchesAt word prev []).head?.map .hit).toList
  | _, _ + 1, [] => []
  | _, skip + 1, c :: rest => scanFrom r (some c) skip rest
  | prev, 0, c :: rest =>
    match (r.matchesAt word prev (c :: rest)).head? with
    | none => .kept c :: scanFrom r (some c) 0 rest
    | some [] => .hit [] :: .kept c :: scanFrom r (some c) 0 rest
    | some (d :: m) => .hit (d :: m) :: scanFrom r (some c) m.length rest

variable (word) in
/-- `search`. -/
def search (r : Regex α) (text : List α) : Bool := r.searchFrom word none text

variable (word) in
/-- `sub`. -/
def sub (r : Regex α) (replacement text : List α) : List α :=
  (r.scanFrom word none 0 text).flatMap (Piece.write replacement)

/-- The characters of a match are passed over. -/
theorem scanFrom_skip {rest : List α} :
    ∀ {prev}, scanFrom word r prev m.length (m ++ rest) =
      scanFrom word r (m.getLast?.or prev) 0 rest := by
  induction m with
  | nil => exact rfl
  | cons c m ih =>
    intro prev
    rw [List.length_cons, List.cons_append, scanFrom, ih, getLast?_cons_or]

section Bordered

variable {p q : Regex α}

theorem scanFrom_kept {c : α} {rest : List α} (h : p.matchesAt word prev (c :: rest) = []) :
    scanFrom word p prev 0 (c :: rest) = .kept c :: scanFrom word p (some c) 0 rest := by
  rw [scanFrom, h]
  rfl

/-- A bordered expression matches only where the character before is none of a word. -/
theorem Bordered.matchesAt_eq_nil (hp : p.Bordered word) (hprev : prev.any word = true) :
    p.matchesAt word prev text = [] := by
  refine List.eq_nil_iff_forall_not_mem.mpr fun m hm => ?_
  obtain ⟨rest, -, haccepts⟩ := mem_matchesAt_iff.mp hm
  obtain ⟨c, -, -, hnot⟩ := hp.begins haccepts
  rw [hprev] at hnot
  cases hnot

theorem Bordered.matchesAt_nil (hp : p.Bordered word) : p.matchesAt word prev [] = [] := by
  refine List.eq_nil_iff_forall_not_mem.mpr fun m hm => ?_
  obtain ⟨rest, hrest, haccepts⟩ := mem_matchesAt_iff.mp hm
  exact hp.ne_nil haccepts (List.append_eq_nil_iff.mp hrest.symm).1

/-- A place of a text is kept, or a match is cut off. -/
theorem Bordered.scanFrom_cases (hp : p.Bordered word) (prev : Option α) (text : List α) :
    text = [] ∧ scanFrom word p prev 0 text = [] ∨
    (∃ c rest, text = c :: rest ∧ p.matchesAt word prev text = [] ∧
      scanFrom word p prev 0 text = .kept c :: scanFrom word p (some c) 0 rest) ∨
    ∃ m rest, text = m ++ rest ∧ p.Accepts word prev m rest.head? ∧
      scanFrom word p prev 0 text = .hit m :: scanFrom word p m.getLast? 0 rest := by
  cases text with
  | nil =>
    refine Or.inl ⟨rfl, ?_⟩
    rw [scanFrom, hp.matchesAt_nil]
    rfl
  | cons c rest =>
    right
    cases hhead : (p.matchesAt word prev (c :: rest)).head? with
    | none =>
      have hnone := List.head?_eq_none_iff.mp hhead
      exact Or.inl ⟨c, rest, rfl, hnone, scanFrom_kept hnone⟩
    | some m =>
      right
      obtain ⟨after, htext, haccepts⟩ := mem_matchesAt_iff.mp (List.mem_of_head? hhead)
      refine ⟨m, after, htext, haccepts, ?_⟩
      cases m with
      | nil => exact absurd rfl (hp.ne_nil haccepts)
      | cons d m =>
        obtain ⟨rfl, rfl⟩ := List.cons.inj htext
        rw [scanFrom, hhead]
        change Piece.hit (c :: m) :: scanFrom word p (some c) m.length (m ++ after) = _
        rw [scanFrom_skip, ← getLast?_cons_or, Option.or_none]

/-- The pieces of a text are the text. -/
theorem Bordered.read_scanFrom (hp : p.Bordered word) :
    (scanFrom word p prev 0 text).flatMap Piece.read = text := by
  induction hlength : text.length using Nat.strong_induction_on generalizing prev text with
  | _ n ih =>
    rcases hp.scanFrom_cases prev text with ⟨rfl, hscan⟩ | ⟨c, rest, rfl, -, hscan⟩ |
      ⟨m, rest, rfl, haccepts, hscan⟩
    · rw [hscan]
      rfl
    · rw [hscan, List.flatMap_cons, ih rest.length (by simp [← hlength]) rfl]
      rfl
    · have hpos := List.length_pos_iff.mpr (hp.ne_nil haccepts)
      rw [hscan, List.flatMap_cons, ih rest.length (by simp [← hlength, hpos]) rfl]
      rfl

/-- Each piece that is a match is accepted between the characters next to it. -/
theorem Bordered.accepts_of_hit (hp : p.Bordered word) {before after : List (Piece α)}
    (h : scanFrom word p prev 0 text = before ++ .hit m :: after) :
    p.Accepts word ((before.flatMap Piece.read).getLast?.or prev) m
      (after.flatMap Piece.read).head? := by
  induction before generalizing prev text with
  | nil =>
    rcases hp.scanFrom_cases prev text with ⟨-, hscan⟩ | ⟨c, rest, -, -, hscan⟩ |
      ⟨m', rest, -, haccepts, hscan⟩
    · rw [hscan] at h
      cases h
    · rw [hscan] at h
      cases h
    · rw [hscan] at h
      obtain ⟨hm, rfl⟩ := List.cons.inj h
      obtain rfl := Piece.hit.inj hm
      rwa [hp.read_scanFrom]
  | cons piece before ih =>
    rcases hp.scanFrom_cases prev text with ⟨-, hscan⟩ | ⟨c, rest, -, -, hscan⟩ |
      ⟨m', rest, -, haccepts, hscan⟩
    · rw [hscan] at h
      cases h
    · rw [hscan] at h
      obtain ⟨rfl, hrest⟩ := List.cons.inj h
      have htail := ih hrest
      rw [List.flatMap_cons, List.getLast?_append, Option.or_assoc]
      exact htail
    · rw [hscan] at h
      obtain ⟨rfl, hrest⟩ := List.cons.inj h
      obtain ⟨d, hd⟩ := Option.ne_none_iff_exists'.mp
        (mt List.getLast?_eq_none_iff.mp (hp.ne_nil haccepts))
      have htail := ih hrest
      rw [List.flatMap_cons, List.getLast?_append, Option.or_assoc]
      change p.Accepts word ((before.flatMap Piece.read).getLast?.or (m'.getLast?.or prev)) m _
      rw [hd] at htail ⊢
      exact htail

/-- A text without a match is kept. -/
theorem Bordered.scanFrom_of_search_eq_false (hp : p.Bordered word)
    (h : p.searchFrom word prev text = false) :
    scanFrom word p prev 0 text = text.map .kept := by
  induction text generalizing prev with
  | nil =>
    rw [scanFrom, hp.matchesAt_nil]
    rfl
  | cons c rest ih =>
    rw [searchFrom, Bool.or_eq_false_iff, Bool.not_eq_false', List.isEmpty_iff] at h
    rw [scanFrom_kept h.1, ih h.2, List.map_cons]

theorem Bordered.sub_eq_self (hp : p.Bordered word) (h : p.search word text = false)
    (replacement : List α) : p.sub word replacement text = text := by
  rw [sub, hp.scanFrom_of_search_eq_false h, List.flatMap_map]
  exact List.flatMap_singleton' text

/-- A prefix of what a text becomes that has no character of a replacement in front is a prefix
of the text. -/
theorem Bordered.prefix_of_written (hp : p.Bordered word) {first : α} {tail written : List α}
    (hfirst : first ∉ m)
    (h : (scanFrom word p prev 0 text).flatMap (Piece.write (first :: tail)) = m ++ written) :
    ∃ rest, text = m ++ rest ∧ (scanFrom word p (m.getLast?.or prev) 0 rest).flatMap
      (Piece.write (first :: tail)) = written := by
  induction m generalizing prev text with
  | nil => exact ⟨text, rfl, h⟩
  | cons d m ih =>
    rw [List.mem_cons, not_or] at hfirst
    rcases hp.scanFrom_cases prev text with ⟨rfl, hscan⟩ | ⟨c, rest, rfl, -, hscan⟩ |
      ⟨m', rest, rfl, -, hscan⟩
    · rw [hscan] at h
      cases h
    · rw [hscan] at h
      obtain ⟨rfl, hrest⟩ := List.cons.inj h
      obtain ⟨rest', rfl, hwritten⟩ := ih hfirst.2 hrest
      exact ⟨rest', rfl, by rwa [getLast?_cons_or]⟩
    · rw [hscan] at h
      exact absurd (List.cons.inj h).1 hfirst.1

/-- No match starts in a text whose characters start none. -/
theorem Bordered.searchFrom_append (hq : q.Bordered word) {replacement : List α}
    (hstart : ∀ c ∈ replacement, q.firsts c = false) (rest : List α) :
    q.searchFrom word prev (replacement ++ rest) =
      q.searchFrom word (replacement.getLast?.or prev) rest := by
  induction replacement generalizing prev with
  | nil => rfl
  | cons c replacement ih =>
    have hnone : q.matchesAt word prev (c :: (replacement ++ rest)) = [] := by
      refine List.eq_nil_iff_forall_not_mem.mpr fun m hm => ?_
      obtain ⟨after, htext, haccepts⟩ := mem_matchesAt_iff.mp hm
      obtain ⟨d, hd, -, -⟩ := hq.begins haccepts
      obtain ⟨m, rfl⟩ := List.head?_eq_some_iff.mp hd
      obtain ⟨rfl, -⟩ := List.cons.inj htext
      have hfirst := haccepts.firsts hd
      rw [hstart c List.mem_cons_self] at hfirst
      cases hfirst
    rw [List.cons_append, searchFrom, hnone, List.isEmpty_nil, Bool.not_true, Bool.false_or,
      ih fun c hc => hstart c (List.mem_cons_of_mem _ hc), getLast?_cons_or]

/-- Where a text has no match, what it becomes has none that starts there either. -/
theorem Bordered.matchesAt_written_eq_nil (hp : p.Bordered word) (hq : q.Bordered word)
    {first : α} {tail : List α} (hforeign : q.chars first = false)
    (hnone : q.matchesAt word prev text = [])
    (hagree : prev'.any word = prev.any word ∨ text.head?.any word = false) :
    q.matchesAt word prev' ((scanFrom word p prev 0 text).flatMap
      (Piece.write (first :: tail))) = [] := by
  refine List.eq_nil_iff_forall_not_mem.mpr fun m hm => ?_
  obtain ⟨written, hwritten, haccepts⟩ := mem_matchesAt_iff.mp hm
  have hfirst : first ∉ m := fun hmem => by
    rw [haccepts.chars hmem] at hforeign
    cases hforeign
  obtain ⟨after, htext, hafter⟩ := hp.prefix_of_written hfirst hwritten
  obtain ⟨d, hd, hword, -⟩ := hq.begins haccepts
  obtain ⟨e, he, heword, -⟩ := hq.ends haccepts
  -- after a word character nothing is replaced, so the character after the match is the same
  have hsame : written.head? = after.head? := by
    rw [he, Option.some_or] at hafter
    rw [← hafter]
    cases after with
    | nil =>
      rw [scanFrom, hp.matchesAt_nil]
      rfl
    | cons c after =>
      rw [scanFrom_kept (hp.matchesAt_eq_nil (by rwa [Option.any_some]))]
      rfl
  have hkept : q.Accepts word prev m after.head? := by
    refine (accepts_congr ?_ (congrArg _ hsame)).mp haccepts
    rcases hagree with hagree | hagree
    · exact hagree
    · rw [htext, List.head?_append, hd, Option.some_or, Option.any_some, hword] at hagree
      cases hagree
  have hmem := mem_matchesAt_iff.mpr ⟨after, htext, hkept⟩
  rw [hnone] at hmem
  cases hmem

/-- Replacing the matches of one bordered expression leaves no match of another, where the other
matches only where the first does and the replacement starts none and has a character of none. -/
theorem searchFrom_written_eq_false (hp : p.Bordered word) (hq : q.Bordered word) {first : α}
    {tail : List α} (hstart : ∀ c ∈ first :: tail, q.firsts c = false)
    (hforeign : q.chars first = false)
    (hplaces : ∀ before after, text = before ++ after →
      p.matchesAt word (before.getLast?.or prev) after = [] →
      q.matchesAt word (before.getLast?.or prev) after = [])
    (hagree : prev'.any word = prev.any word ∨ text.head?.any word = false) :
    q.searchFrom word prev' ((scanFrom word p prev 0 text).flatMap
      (Piece.write (first :: tail))) = false := by
  induction hlength : text.length using Nat.strong_induction_on generalizing prev prev' text with
  | _ n ih =>
    rcases hp.scanFrom_cases prev text with ⟨rfl, hscan⟩ | ⟨c, rest, rfl, hnone, hscan⟩ |
      ⟨m, rest, rfl, haccepts, hscan⟩
    · rw [hscan, List.flatMap_nil, searchFrom, hq.matchesAt_nil]
      rfl
    · have hnone' : q.matchesAt word prev (c :: rest) = [] := hplaces [] (c :: rest) rfl hnone
      have hhere : q.matchesAt word prev' ((scanFrom word p prev 0 (c :: rest)).flatMap
          (Piece.write (first :: tail))) = [] :=
        hp.matchesAt_written_eq_nil hq hforeign hnone' hagree
      rw [hscan] at hhere ⊢
      change (!(q.matchesAt word prev' (c :: _)).isEmpty || q.searchFrom word (some c) _) = false
      rw [Bool.or_eq_false_iff, Bool.not_eq_false', List.isEmpty_iff]
      refine ⟨hhere, ih rest.length (by simp [← hlength]) ?_ (Or.inl rfl) rfl⟩
      intro before after hrest hmatches
      have hplace := hplaces (c :: before) after (by rw [hrest, List.cons_append])
      rw [getLast?_cons_or] at hplace
      exact hplace hmatches
    · have hpos := List.length_pos_iff.mpr (hp.ne_nil haccepts)
      obtain ⟨d, hlast, -, hnext⟩ := hp.ends haccepts
      rw [hscan, List.flatMap_cons]
      change q.searchFrom word prev' (first :: tail ++ _) = false
      rw [hq.searchFrom_append hstart]
      refine ih rest.length (by simp [← hlength, hpos]) ?_ (Or.inr hnext) rfl
      intro before after hrest hmatches
      have hplace := hplaces (m ++ before) after (by rw [hrest, List.append_assoc])
      rw [List.getLast?_append, Option.or_assoc, hlast, Option.some_or] at hplace
      rw [hlast] at hmatches ⊢
      exact hplace hmatches

theorem searchFrom_append_eq_false {before : List α}
    (h : q.searchFrom word prev (before ++ text) = false) :
    q.searchFrom word (before.getLast?.or prev) text = false := by
  induction before generalizing prev with
  | nil => exact h
  | cons c before ih =>
    rw [List.cons_append, searchFrom, Bool.or_eq_false_iff] at h
    rw [getLast?_cons_or]
    exact ih h.2

theorem matchesAt_eq_nil_of_search {before after : List α}
    (h : q.search word (before ++ after) = false) :
    q.matchesAt word before.getLast? after = [] := by
  have hafter := searchFrom_append_eq_false h
  rw [Option.or_none] at hafter
  cases after with
  | nil =>
    rwa [searchFrom, Bool.not_eq_false', List.isEmpty_iff] at hafter
  | cons c after =>
    rw [searchFrom, Bool.or_eq_false_iff, Bool.not_eq_false', List.isEmpty_iff] at hafter
    exact hafter.1

/-- Replacing the matches of a bordered expression leaves none of them. -/
theorem search_sub_self (hp : p.Bordered word) {first : α} {tail : List α}
    (hstart : ∀ c ∈ first :: tail, p.firsts c = false) (hforeign : p.chars first = false) :
    p.search word (p.sub word (first :: tail) text) = false :=
  searchFrom_written_eq_false hp hp hstart hforeign (fun _ _ _ h => h) (Or.inl rfl)

/-- Replacing the matches of a bordered expression makes none of another. -/
theorem search_sub_of_search (hp : p.Bordered word) (hq : q.Bordered word) {first : α}
    {tail : List α} (hstart : ∀ c ∈ first :: tail, q.firsts c = false)
    (hforeign : q.chars first = false) (h : q.search word text = false) :
    q.search word (p.sub word (first :: tail) text) = false := by
  refine searchFrom_written_eq_false hp hq hstart hforeign (fun before after htext _ => ?_)
    (Or.inl rfl)
  rw [htext] at h
  rw [Option.or_none]
  exact matchesAt_eq_nil_of_search h

end Bordered

end Regex

end Governor
