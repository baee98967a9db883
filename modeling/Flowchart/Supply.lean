/-! What an editing session draws from: ids that never come twice, and random numbers. -/

namespace Flowchart

/-- A source of ids, how many of them were drawn, and the random numbers still to come. -/
structure Supply where
  /-- The id drawn after so many others. -/
  idAfter : Nat → String
  /-- No id comes twice. -/
  idAfter_inj : ∀ {first second : Nat}, idAfter first = idAfter second → first = second
  /-- No id is empty. -/
  idAfter_ne_empty : ∀ issued, idAfter issued ≠ ""
  issued : Nat
  randoms : List Float

namespace Supply

/-- The ids `u1`, `u2` and so on. -/
def numberedId (issued : Nat) : String := "u" ++ toString (issued + 1)

/-- Numbered ids tell apart what was drawn before them. -/
theorem numberedId_inj {first second : Nat} (same : numberedId first = numberedId second) :
    first = second := by
  -- The digits behind the letter read back as the number they were written for.
  have digits : (first + 1).repr = (second + 1).repr := (String.append_right_inj "u").mp same
  have read (n : Nat) : Nat.ofDigitChars 10 n.repr.toList 0 = n := by
    rw [Nat.toList_repr, Nat.ofDigitChars_toDigits (by decide) (by decide)]
  have whole : first + 1 = second + 1 := by rw [← read (first + 1), digits, read]
  omega

/-- A numbered id starts with its letter. -/
theorem numberedId_ne_empty (issued : Nat) : numberedId issued ≠ "" := by
  simp [numberedId]

/-- A supply of numbered ids that nothing was drawn from. -/
def numbered (randoms : List Float) : Supply :=
  ⟨numberedId, numberedId_inj, numberedId_ne_empty, 0, randoms⟩

/-- Draws an id. -/
def drawId (supply : Supply) : String × Supply :=
  (supply.idAfter supply.issued, { supply with issued := supply.issued + 1 })

/-- Draws a random number; after the given ones it is always one half. -/
def drawRandom (supply : Supply) : Float × Supply :=
  match supply.randoms with
  | x :: rest => (x, { supply with randoms := rest })
  | [] => (0.5, supply)

end Supply

end Flowchart
