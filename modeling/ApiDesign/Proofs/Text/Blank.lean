import ApiDesign.Text.Blank

/-!
# Trimmed texts

Every text is a core between blanks, and trimming gives the core back, whatever the blanks are.

* `Blanks`, `Trimmed` — nothing but blanks, and no blank at either end;
* `trimChars_append` — the core of a text with blanks around it is what trimming leaves;
* `exists_trimmed` — every text has a core.
-/

namespace ApiDesign.Text

/-- Nothing but blanks. -/
def Blanks (cs : List Char) : Prop := ∀ c ∈ cs, isBlank c = true

/-- No blank at either end. -/
structure Trimmed (cs : List Char) : Prop where
  head : ∀ c, cs.head? = some c → isBlank c = false
  last : ∀ c, cs.getLast? = some c → isBlank c = false

variable {before core after cs : List Char}

/-- The printed characters of ASCII are no blanks. -/
theorem isBlank_of_visible {c : Char} (hlow : 0x20 < c.val.toNat) (hhigh : c.val.toNat < 0x85) :
    isBlank c = false := by
  simp only [isBlank, UInt32.le_iff_toNat_le, ← UInt32.toNat_inj, UInt32.reduceToNat,
    beq_eq_false_iff_ne, Bool.or_eq_false_iff, Bool.and_eq_false_iff, decide_eq_false_iff_not, ne_eq]
  omega

theorem Blanks.nil : Blanks [] := fun _ h => absurd h List.not_mem_nil

theorem Blanks.singleton {c : Char} (h : isBlank c = true) : Blanks [c] :=
  List.forall_mem_singleton.2 h

theorem Blanks.reverse (h : Blanks cs) : Blanks cs.reverse :=
  fun c hc => h c (List.mem_reverse.1 hc)

theorem blanks_takeWhile (cs : List Char) : Blanks (cs.takeWhile isBlank) := by
  intro c hc
  have hall : (cs.takeWhile isBlank).all isBlank = true := List.all_takeWhile
  exact List.all_eq_true.1 hall c hc

/-- Between blanks that are dropped and what is left stands no further blank. -/
theorem isBlank_of_head?_dropWhile {c : Char} (h : (cs.dropWhile isBlank).head? = some c) :
    isBlank c = false := by
  have hhead := List.head?_dropWhile_not isBlank cs
  rw [h] at hhead
  exact hhead

/-- Blanks are dropped up to a text that does not begin with one. -/
theorem dropWhile_append (hbefore : Blanks before)
    (hcs : ∀ c, cs.head? = some c → isBlank c = false) :
    (before ++ cs).dropWhile isBlank = cs := by
  rw [List.dropWhile_append_of_pos hbefore]
  cases cs with
  | nil => rfl
  | cons c cs =>
    have hc : isBlank c = false := hcs c rfl
    rw [List.dropWhile_cons, hc]
    rfl

/-- Trimming gives back the core of a text. -/
theorem trimChars_append (hbefore : Blanks before) (hcore : Trimmed core) (hafter : Blanks after) :
    trimChars (before ++ core ++ after) = core := by
  have hend : trimEnd (core ++ after) = core := by
    have hlast : ∀ c, core.reverse.head? = some c → isBlank c = false := by
      intro c hc
      rw [List.head?_reverse] at hc
      exact hcore.last c hc
    rw [trimEnd, List.reverse_append, dropWhile_append hafter.reverse hlast, List.reverse_reverse]
  rw [trimChars, List.append_assoc]
  cases core with
  | nil =>
    have hblanks : (before ++ ([] ++ after)).dropWhile isBlank = [] := by
      have hall : Blanks (before ++ after) := by
        intro c hc
        exact (List.mem_append.1 hc).elim (hbefore c) (hafter c)
      have hdrop : (before ++ after ++ []).dropWhile isBlank = [] :=
        dropWhile_append hall (by simp)
      rwa [List.append_nil] at hdrop
    rw [hblanks]
    rfl
  | cons c core =>
    have hhead : ∀ x, (c :: core ++ after).head? = some x → isBlank x = false := by
      intro x hx
      exact hcore.head x hx
    rw [dropWhile_append hbefore hhead, hend]

/-- Every text is a core between blanks. -/
theorem exists_trimmed (cs : List Char) :
    ∃ before core after, Blanks before ∧ Trimmed core ∧ Blanks after ∧
      cs = before ++ core ++ after := by
  let rest := cs.dropWhile isBlank
  let core := (rest.reverse.dropWhile isBlank).reverse
  let after := (rest.reverse.takeWhile isBlank).reverse
  have hrest : rest = core ++ after := by
    have hsplit : rest.reverse.takeWhile isBlank ++ rest.reverse.dropWhile isBlank = rest.reverse :=
      List.takeWhile_append_dropWhile
    rw [← List.reverse_append, hsplit, List.reverse_reverse]
  refine ⟨cs.takeWhile isBlank, core, after, blanks_takeWhile cs, ⟨?_, ?_⟩,
    (blanks_takeWhile rest.reverse).reverse, ?_⟩
  · intro c hc
    have hhead : rest.head? = some c := by
      rw [hrest, List.head?_append, hc]
      rfl
    exact isBlank_of_head?_dropWhile hhead
  · intro c hc
    rw [List.getLast?_reverse] at hc
    exact isBlank_of_head?_dropWhile hc
  · rw [List.append_assoc, ← hrest]
    exact List.takeWhile_append_dropWhile.symm

end ApiDesign.Text
