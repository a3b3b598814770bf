/-!
# Loops over a list

Many rules look at the entries of a list one after the other and keep something of those they have
passed: the keys that have been seen, or what is still to be said of a key. `scan` is a loop that
reports as it goes, `scanUntil` one that ends with its first report.
-/

namespace GatewayAdmission

section

variable {α β σ : Type}

/-- The reports of a loop over entries that are numbered from `index` on. A step gets what is kept
so far, the number of an entry and the entry; it gives its reports and what is kept from there. -/
def scanFrom (step : σ → Nat → α → List β × σ) (index : Nat) (kept : σ) : List α → List β
  | [] => []
  | a :: rest =>
    let next := step kept index a
    next.1 ++ scanFrom step (index + 1) next.2 rest

def scan (step : σ → Nat → α → List β × σ) (kept : σ) (as : List α) : List β :=
  scanFrom step 0 kept as

/-- The first report of a loop over entries that are numbered from `index` on. -/
def scanUntilFrom (step : σ → Nat → α → Except β σ) (index : Nat) (kept : σ) : List α → Option β
  | [] => none
  | a :: rest =>
    match step kept index a with
    | .error report => some report
    | .ok kept => scanUntilFrom step (index + 1) kept rest

def scanUntil (step : σ → Nat → α → Except β σ) (kept : σ) (as : List α) : Option β :=
  scanUntilFrom step 0 kept as

end

/-! ## Keys that have been seen -/

section

variable {α κ : Type} [BEq κ]

/-- Reports the number of an entry whose key has been seen; the key of another is now seen. -/
def seeKey (key : α → κ) (seen : List κ) (index : Nat) (a : α) : List Nat × List κ :=
  if seen.contains (key a) then ([index], seen) else ([], key a :: seen)

/-- The numbers of the entries whose key has been seen before. -/
def repeatedAt (key : α → κ) (as : List α) : List Nat := scan (seeKey key) [] as

end

end GatewayAdmission
