import SourceIndex.Directory

/-! # Walking through a directory tree

A walker hands out the files below a directory one at a time.  It keeps the directories it has
still to list as a stack and at most one open listing.  `Walker.step` reads one entry or opens
one directory; `Walker.next` steps until a file is found or nothing is left.  Each step lessens
what there is to walk through, so the walk ends. -/
set_option autoImplicit false
namespace SourceIndex

structure FoundFile where
  path : Path
  content : FileContent

/-- An open listing: how many were opened before it, the directory it lists, what is still to
come, and behind how many more entries it fails. -/
structure Listing where
  number : Nat
  path : Path
  entries : List Entry
  breaksAfter : Option Nat
  releases : Bool

inductive Listed where
  | entry (entry : Entry) (rest : Listing)
  | finished
  | broken

def Listing.read (listing : Listing) : Listed :=
  match listing.breaksAfter with
  | some 0 => .broken
  | breaksAfter =>
    match listing.entries with
    | [] => .finished
    | entry :: rest =>
      .entry entry { listing with entries := rest, breaksAfter := breaksAfter.map (· - 1) }

theorem Listing.totalWeight_of_read {listing rest : Listing} {entry : Entry}
    (read : listing.read = .entry entry rest) :
    Entry.totalWeight listing.entries = entry.weight + Entry.totalWeight rest.entries := by
  unfold Listing.read at read
  split at read
  · cases read
  · split at read
    · cases read
    · rename_i entries
      cases read
      simp [entries, Entry.totalWeight]

/-- A walk on its way.  The directories still to be listed are kept with the next one first. -/
structure Walker where
  ignored : String → Bool
  pending : List Folder
  listing : Option Listing := none
  skipped : Nat := 0
  opened : Nat := 0
  released : List Nat := []

inductive WalkStep where
  | found (file : FoundFile) (walker : Walker)
  | moved (walker : Walker) (events : List Event)
  | exhausted

namespace Walker

def start (root : Folder) (ignored : String → Bool) : Walker := { ignored, pending := [root] }

def closed (walker : Walker) : Nat := walker.released.length

def release (walker : Walker) : Walker :=
  match walker.listing with
  | none => walker
  | some listing =>
    { walker with
      listing := none
      released :=
        if listing.releases then walker.released ++ [listing.number] else walker.released }

def close (walker : Walker) : Walker := { walker.release with pending := [] }

/-- Look at an entry of the open listing, of which `rest` is left. -/
def visit (walker : Walker) (entry : Entry) (rest : Listing) : WalkStep :=
  let after := { walker with listing := some rest }
  if walker.ignored entry.name then .moved after []
  else
    match entry with
    | .directory name conduct entries =>
      -- in front of all that wait, so the directory listed last is entered first
      .moved { after with pending := ⟨rest.path.child name, conduct, entries⟩ :: walker.pending } []
    | .leaf name kind =>
      match kind.content? with
      | some content => .found ⟨rest.path.child name, content⟩ after
      | none => .moved after []

def openNext (walker : Walker) (folder : Folder) (rest : List Folder) : WalkStep :=
  if folder.conduct.opens then
    let listing : Listing :=
      ⟨walker.opened, folder.path, folder.entries, folder.conduct.breaksAfter,
        folder.conduct.releases⟩
    .moved { walker with pending := rest, listing := some listing, opened := walker.opened + 1 } []
  else
    .moved { walker with pending := rest, skipped := walker.skipped + 1 }
      [.debug "directory_skipped" [("directory", .text folder.path.text)]]

def step (walker : Walker) : WalkStep :=
  match walker.listing with
  | some listing =>
    match listing.read with
    | .entry entry rest => walker.visit entry rest
    | .finished => .moved walker.release []
    -- what was listed before the break stays found, and the directories among it are still entered
    | .broken => .moved { walker.release with skipped := walker.skipped + 1 } []
  | none =>
    match walker.pending with
    | [] => .exhausted
    | folder :: rest => walker.openNext folder rest

def weight (walker : Walker) : Nat :=
  Folder.totalWeight walker.pending
    + (match walker.listing with
      | some listing => Entry.totalWeight listing.entries + 1
      | none => 0)

@[simp] theorem weight_release (walker : Walker) :
    walker.release.weight = Folder.totalWeight walker.pending := by
  cases h : walker.listing <;> simp [release, weight, h]

/-- Each step lessens what there is to walk through. -/
theorem weight_of_step_moved {walker after : Walker} {events : List Event}
    (moved : walker.step = .moved after events) : after.weight < walker.weight := by
  unfold step at moved
  split at moved
  · rename_i listing open_
    split at moved
    · rename_i entry rest read
      have total := Listing.totalWeight_of_read read
      unfold visit at moved
      have positive := Entry.weight_pos entry
      split at moved
      · cases moved
        simp [weight, open_]
        omega
      · split at moved
        · cases moved
          simp [weight, open_, Folder.totalWeight, Folder.weight]
          simp [Entry.weight] at total
          omega
        · split at moved
          · cases moved
          · cases moved
            simp [weight, open_]
            omega
    · cases moved
      simp
      simp [weight, open_]
    · cases moved
      have same := weight_release walker
      simp [weight] at same
      simp [weight, open_, same]
  · rename_i closed
    split at moved
    · cases moved
    · rename_i folder rest pending
      unfold openNext at moved
      split at moved
      · cases moved
        simp [weight, pending, closed, Folder.totalWeight, Folder.weight]
        omega
      · cases moved
        simp [weight, pending, closed, Folder.totalWeight, Folder.weight]

theorem weight_of_step_found {walker after : Walker} {file : FoundFile}
    (found : walker.step = .found file after) : after.weight < walker.weight := by
  unfold step at found
  split at found
  · rename_i listing open_
    split at found
    · rename_i entry rest read
      have total := Listing.totalWeight_of_read read
      have positive := Entry.weight_pos entry
      unfold visit at found
      split at found
      · cases found
      · split at found
        · cases found
        · split at found
          · cases found
            simp [weight, open_]
            omega
          · cases found
    · cases found
    · cases found
  · split at found
    · cases found
    · unfold openNext at found
      split at found <;> cases found

def next (walker : Walker) : Option FoundFile × Walker × List Event :=
  match _stepped : walker.step with
  | .found file after => (some file, after, [])
  | .moved after events =>
    let (file, last, more) := after.next
    (file, last, events ++ more)
  | .exhausted => (none, walker, [])
termination_by walker.weight
decreasing_by exact weight_of_step_moved (by assumption)

theorem weight_of_next {walker : Walker} {file : FoundFile} :
    walker.next.1 = some file → walker.next.2.1.weight < walker.weight := by
  fun_induction next walker with
  | case1 walker file after found => exact fun _ => weight_of_step_found found
  | case2 walker after events moved file last more result ih =>
    intro some_
    rw [result] at ih
    exact Nat.lt_trans (ih some_) (weight_of_step_moved moved)
  | case3 walker exhausted => exact fun impossible => by cases impossible

def drain (walker : Walker) : List FoundFile × Walker × List Event :=
  match _pulled : walker.next with
  | (none, last, events) => ([], last, events)
  | (some file, after, events) =>
    let (files, last, more) := after.drain
    (file :: files, last, events ++ more)
termination_by walker.weight
decreasing_by
  have less := @weight_of_next walker file (by rw [_pulled])
  rw [_pulled] at less
  exact less

/-- The directories still to be listed, the next one last. -/
def pendingPaths (walker : Walker) : List Path := (walker.pending.map Folder.path).reverse

end Walker

/-- The names that are left out unless others are given: what tools keep beside the sources. -/
def usualIgnorePatterns : List String :=
  [".git", ".hg", ".svn", ".idea", ".vscode", "__pycache__", ".mypy_cache", ".pytest_cache",
    ".ruff_cache", ".venv", "venv", "node_modules", "target", "dist"]

end SourceIndex
