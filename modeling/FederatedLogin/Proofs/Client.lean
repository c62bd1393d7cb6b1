import FederatedLogin.Client
import FederatedLogin.Proofs.Database.Opening

/-!
# When a client is refused

Setting up a client depends on the files only through the bundle of trusted certificates, and on
that only for an https address.  A bundle is refused because of what its path leads to.
-/

namespace FederatedLogin

open FederatedLogin.Text

variable [Platform]

/-- Whether a content cannot be loaded as a bundle.  One that is empty is not even looked at, and
neither is a directory. -/
def FileContent.isUnusableBundle : FileContent → Bool
  | .text source => source ≠ "" && !Platform.loadsBundle source
  | .database _ => true
  | .directory => false

namespace Client

/-- Whether a path of a bundle is looked up. -/
structure IsLookedUp (files : Files) (path : String) : Prop where
  nonempty : path ≠ ""
  withoutZero : ¬ path.toList.contains '\x00'
  short : ¬ files.isTooLong path

variable {files : Files} {bundlePath : Option String}

theorem trust_of_isLookedUp {path : String} (lookedUp : IsLookedUp files path) :
    (trust files (some path)).result =
      if (files.find? path).any FileContent.isUnusableBundle then
        .error (.configuration (.bundleUnusable path))
      else .ok () := by
  rw [trust, if_neg lookedUp.withoutZero, if_neg lookedUp.short]
  · cases files.find? path with
    | none => rfl
    | some content =>
        cases content with
        | directory => rfl
        | database table => rfl
        | text source =>
            by_cases blank : source = ""
            · simp [blank, FileContent.isUnusableBundle]
            · by_cases loadable : Platform.loadsBundle source <;>
                simp [blank, loadable, FileContent.isUnusableBundle]
  · exact lookedUp.nonempty

/-- A configuration failure of a bundle is about a path that is looked up. -/
theorem exists_isLookedUp_of_trust {fault : ConfigurationFault}
    (refused : (trust files bundlePath).result = .error (.configuration fault)) :
    ∃ path, bundlePath = some path ∧ IsLookedUp files path := by
  rw [trust.eq_def] at refused
  split at refused
  · cases refused
  · cases refused
  · next path nonempty =>
      split at refused
      · cases refused
      · next withoutZero =>
          split at refused
          · cases refused
          · next short => exact ⟨path, rfl, nonempty, withoutZero, short⟩

/-- Whether the path of a bundle leads to a place. -/
structure LeadsTo (files : Files) (path : String) (place : FilePath) : Prop where
  lookedUp : IsLookedUp files path
  reached : files.reach? (Utf8.encode path) = some place

theorem trust_eq_ok_iff {path : String} (lookedUp : IsLookedUp files path) :
    (trust files (some path)).result = .ok () ↔
      ¬ (files.find? path).any FileContent.isUnusableBundle := by
  rw [trust_of_isLookedUp lookedUp]
  split
  · next unusable => simp [unusable]
  · next usable => simp [usable]

omit [Platform] in
/-- Which paths are looked up depends on the directories only. -/
theorem isLookedUp_iff {other : Files} (same : files.SameDirectories other) {path : String} :
    IsLookedUp files path ↔ IsLookedUp other path := by
  constructor
  · rintro ⟨nonempty, withoutZero, short⟩
    exact ⟨nonempty, withoutZero, same.isTooLong path ▸ short⟩
  · rintro ⟨nonempty, withoutZero, short⟩
    exact ⟨nonempty, withoutZero, (same.isTooLong path).symm ▸ short⟩

variable {found left : Files} {place : FilePath}

omit [Platform] in
theorem find?_of_holding (holding : OpenDatabase.Holding found left place) (path : String) :
    left.find? path = (found.reach? (Utf8.encode path)).bind left.content? := by
  rw [Files.find?, holding.directories.reach?]

/-- What cannot be loaded from elsewhere than the place of a database could not be loaded before. -/
theorem isUnusableBundle_of_elsewhere (holding : OpenDatabase.Holding found left place)
    {path : String} (elsewhere : found.reach? (Utf8.encode path) ≠ some place)
    (unusable : (left.find? path).any FileContent.isUnusableBundle) :
    (found.find? path).any FileContent.isUnusableBundle := by
  rw [find?_of_holding holding] at unusable
  rw [Files.find?]
  cases reached : found.reach? (Utf8.encode path) with
  | none =>
      rw [reached] at unusable
      cases unusable
  | some other =>
      rw [reached, Option.bind_some] at unusable
      rw [Option.bind_some]
      have different : other ≠ place := by
        rintro rfl
        exact elsewhere reached
      cases here : left.content? other with
      | none =>
          rw [here] at unusable
          cases unusable
      | some content =>
          rw [holding.elsewhere different here]
          rwa [here] at unusable

/-- Where a bundle was in order, the opening of a database spoils it exactly if its path leads to
the place of the database. -/
theorem trust_of_leaves {opened : OpenDatabase} (leaves : OpenDatabase.Leaves found left opened)
    (trusted : (trust found bundlePath).result = .ok ()) :
    (∃ fault, (trust left bundlePath).result = .error (.configuration fault)) ↔
      ∃ path place, bundlePath = some path ∧ opened.place = some place ∧
        LeadsTo found path place := by
  cases leaves with
  | memory opened placeless =>
      constructor
      · rintro ⟨fault, refused⟩
        rw [trusted] at refused
        cases refused
      · rintro ⟨path, place, _, placed, _⟩
        rw [placeless] at placed
        cases placed
  | file left opened place placed holding kept =>
      constructor
      · rintro ⟨fault, refused⟩
        obtain ⟨path, rfl, lookedUp⟩ := exists_isLookedUp_of_trust refused
        have wasLookedUp := (isLookedUp_iff holding.directories).mp lookedUp
        by_cases reached : found.reach? (Utf8.encode path) = some place
        · exact ⟨path, place, rfl, placed, wasLookedUp, reached⟩
        · exfalso
          have usable : ¬ (left.find? path).any FileContent.isUnusableBundle := fun unusable =>
            (trust_eq_ok_iff wasLookedUp).mp trusted
              (isUnusableBundle_of_elsewhere holding reached unusable)
          rw [(trust_eq_ok_iff lookedUp).mpr usable] at refused
          cases refused
      · rintro ⟨path, other, rfl, otherPlaced, leads⟩
        rw [placed, Option.some.injEq] at otherPlaced
        subst otherPlaced
        have lookedUp := (isLookedUp_iff holding.directories).mpr leads.lookedUp
        refine ⟨.bundleUnusable path, ?_⟩
        rw [trust_of_isLookedUp lookedUp, find?_of_holding holding, leads.reached,
          Option.bind_some, kept]
        rfl

/-! ## Setups -/

variable {base : String} {timeout : Float} {client : Client}

/-- A client is set up for the normal form of its base address. -/
theorem serviceUrl_of_build (built : (build files base bundlePath timeout).result = .ok client) :
    Address.serviceUrl base = .ok client.url := by
  rw [build] at built
  cases resolved : Address.serviceUrl base with
  | error failure => simp [resolved] at built
  | ok url =>
      simp only [resolved] at built
      cases parsed : Address.ofText? url with
      | none => simp [parsed] at built
      | some address =>
          simp only [parsed] at built
          split at built
          · split at built <;> cases built
            rfl
          · cases built
            rfl

/-- A client that was set up trusts its bundle, if it uses TLS. -/
theorem trust_of_build (built : (build files base bundlePath timeout).result = .ok client)
    (secure : client.usesTls) : (trust files bundlePath).result = .ok () := by
  rw [build] at built
  cases resolved : Address.serviceUrl base with
  | error failure => simp [resolved] at built
  | ok url =>
      simp only [resolved] at built
      cases parsed : Address.ofText? url with
      | none => simp [parsed] at built
      | some address =>
          simp only [parsed] at built
          split at built
          · cases trusted : (trust files bundlePath).result with
            | error failure => simp [trusted] at built
            | ok done => rfl
          · cases built
            cases secure

/-- With other files a client is set up the same way, but for its bundle. -/
theorem build_of_build (built : (build files base bundlePath timeout).result = .ok client)
    (other : Files) : (build other base bundlePath timeout).result =
      if client.usesTls then (trust other bundlePath).result.map fun _ => client else .ok client := by
  rw [build] at built ⊢
  cases resolved : Address.serviceUrl base with
  | error failure => simp [resolved] at built
  | ok url =>
      simp only [resolved] at built ⊢
      cases parsed : Address.ofText? url with
      | none => simp [parsed] at built
      | some address =>
          simp only [parsed] at built ⊢
          split at built
          · next secure =>
              cases trusted : (trust files bundlePath).result with
              | error failure => simp [trusted] at built
              | ok done =>
                  simp only [trusted] at built
                  cases built
                  rw [if_pos secure]
                  cases (trust other bundlePath).result <;> rfl
          · next insecure =>
              cases built
              rw [if_neg insecure]
              rfl

/-- After the opening of a database, a client that could be set up before is refused because of the
configuration exactly if it uses TLS and the path of its bundle leads to the place of the
database. -/
theorem build_misconfigured_iff {opened : OpenDatabase}
    (leaves : OpenDatabase.Leaves files left opened)
    (built : (build files base bundlePath timeout).result = .ok client) :
    (∃ fault, (build left base bundlePath timeout).result = .error (.configuration fault)) ↔
      client.usesTls ∧ ∃ path place, bundlePath = some path ∧ opened.place = some place ∧
        LeadsTo files path place := by
  rw [build_of_build built left]
  by_cases secure : client.usesTls
  · rw [← trust_of_leaves leaves (trust_of_build built secure)]
    simp only [secure, if_true, true_and]
    cases (trust left bundlePath).result with
    | ok done => simp [Except.map]
    | error failure => simp [Except.map]
  · simp [secure]

end Client

end FederatedLogin
