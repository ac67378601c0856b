/-
Formulary.Sampling.Drawing — programs that draw numbers.

A program either is done, or asks for a number below a positive bound and goes on with the number
it gets. Nothing is said about where the numbers come from: `run` takes them from any source of
integers, one integer for a draw, reduced modulo the bound, and records what was asked for and what
was drawn. How many draws a program makes can be read off the program.
-/
namespace Formulary

/-- A program that draws numbers before it gives its result. -/
inductive Drawing (α : Type)
  | done (result : α)
  | draw (bound : Nat) (positive : 0 < bound) (next : Fin bound → Drawing α)

namespace Drawing

/-- Go on with the result of a program. -/
def bind {α β : Type} : Drawing α → (α → Drawing β) → Drawing β
  | .done result, f => f result
  | .draw bound positive next, f => .draw bound positive fun i => (next i).bind f

instance : Monad Drawing where
  pure := .done
  bind := .bind

/-- Draw one number and make the result from it. -/
def single {α : Type} (bound : Nat) (positive : 0 < bound) (f : Fin bound → α) : Drawing α :=
  .draw bound positive fun i => .done (f i)

/-- Run a program several times, one run after another. -/
def replicate {α : Type} : Nat → Drawing α → Drawing (List α)
  | 0, _ => .done []
  | n + 1, d => d.bind fun first => (replicate n d).bind fun rest => .done (first :: rest)

end Drawing

/-- A draw on record: the bound and the number below it. -/
structure Draw where
  bound : Nat
  value : Nat
deriving DecidableEq, Repr

/-- A source of integers, by how many were taken before. -/
abbrev Source := Nat → Int

/-- The integers of a list over and over; zeros if there are none. -/
def Source.cycle (script : List Int) : Source :=
  fun i => script.getD (i % script.length) 0

namespace Drawing

/-- The number below a bound that an integer stands for. -/
def reduce (bound : Nat) (positive : 0 < bound) (n : Int) : Fin bound :=
  ⟨(n % bound).toNat, by
    have := Int.emod_lt_of_pos n (b := bound) (by omega)
    have := Int.emod_nonneg n (b := bound) (by omega)
    omega⟩

/-- Run a program on a source from which `taken` integers have been taken, giving the draws in order
and the result. -/
def run {α : Type} (source : Source) : Nat → Drawing α → List Draw × α
  | _, .done result => ([], result)
  | taken, .draw bound positive next =>
    let i := reduce bound positive (source taken)
    let (draws, result) := run source (taken + 1) (next i)
    (⟨bound, i⟩ :: draws, result)

/-- A single draw is made once, and the result is made from the number drawn. -/
theorem run_single {α : Type} (source : Source) (taken bound : Nat) (positive : 0 < bound)
    (f : Fin bound → α) :
    run source taken (single bound positive f)
      = ([⟨bound, reduce bound positive (source taken)⟩],
          f (reduce bound positive (source taken))) :=
  rfl

end Drawing

end Formulary
