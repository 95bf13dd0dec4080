import Dzta.Library.Interleaving
import Dzta.Wallet.Store

/-!
# The master seed under concurrency

`get_or_create_zkp_secret_seed` looks for a seed, and if there is none it samples one and inserts
it.  Between the two, other calls may do the same.  A call is modelled as its atomic steps on the
open store (`seedCall`), and without interruption it is the function of the wallet
(`getOrCreateZkpSecretSeed_eq_run`).

**`seed_agreement`** is for any number of calls and any schedule: all seeds that are returned are
the stored one, and a stored seed stays.  What carries it is that the loser of a race gets the
error of the second insertion, not its own sample.
-/

namespace DZTA

/-! ## A call as its steps

The function reads and writes the store in steps, with those of others between them. -/

/-- `get_or_create_zkp_secret_seed` on an open store: the fetch and the insertion. -/
def seedCall (fetchHost insertHost : AskarHost) (random : Except String (FixedBytes 32)) :
    Steps Askar (WalletResult Bytes) :=
  .step id fun askar =>
    match askar.fetch fetchHost "keys" "master_zkp_seed" with
    | .error e => .done (.error e)
    | .ok (some entry) => .done (.ok entry.value)
    | .ok none =>
      match random with
      | .error e => .done (.error (.storageError ("RNG generation failed: " ++ e)))
      | .ok seed =>
        let inserted := fun askar : Askar =>
          askar.insert insertHost "keys" "master_zkp_seed" ⟨seed.val, []⟩
        .step (fun askar => (inserted askar).toOption.getD askar)
          fun askar => .done ((inserted askar).map fun _ => seed.val)

/-- **A call that is not interrupted** is the function of the wallet. -/
theorem getOrCreateZkpSecretSeed_eq_run {wallet : Wallet} {askar : Askar}
    (hopen : wallet.askarStore = some askar) (fetchHost insertHost : AskarHost)
    (random : Except String (FixedBytes 32)) :
    wallet.getOrCreateZkpSecretSeed fetchHost insertHost random =
      ((seedCall fetchHost insertHost random).run askar).1.map fun bytes =>
        ({ wallet with
          askarStore := some ((seedCall fetchHost insertHost random).run askar).2 }, bytes) := by
  obtain ⟨_, passphrase⟩ := wallet
  obtain rfl : _ = some askar := hopen
  simp only [Wallet.getOrCreateZkpSecretSeed, Wallet.store, Except.okOr_some, Except.ok_bind,
    seedCall, Steps.run, id]
  cases askar.fetch fetchHost "keys" "master_zkp_seed" with
  | error e => rfl
  | ok found =>
    cases found with
    | some entry => rfl
    | none =>
      cases random with
      | error e => rfl
      | ok seed =>
        simp only [Except.ok_bind, Except.mapError, Steps.run]
        cases askar.insert insertHost "keys" "master_zkp_seed" ⟨seed.val, []⟩ with
        | error e => rfl
        | ok askar' => rfl

/-! ## Any number of calls

All of them return the one seed that is stored. -/

/-- The stored seed. -/
def storedSeed (askar : Askar) : Option Bytes :=
  (askar.lookup ("keys", "master_zkp_seed")).map AskarEntry.value

/-- A stored seed stays. -/
def KeepsSeed (askar askar' : Askar) : Prop :=
  ∀ bytes, storedSeed askar = some bytes → storedSeed askar' = some bytes

/-- A result is an error or the stored seed. -/
def IsStored (result : WalletResult Bytes) (askar : Askar) : Prop :=
  ∀ bytes, result = .ok bytes → storedSeed askar = some bytes

lemma storedSeed_of_insert {host : AskarHost} {askar askar' : Askar} {entry : AskarEntry}
    (h : askar.insert host "keys" "master_zkp_seed" entry = .ok askar') :
    storedSeed askar = none ∧ storedSeed askar' = some entry.value := by
  obtain ⟨hnew, rfl⟩ := Askar.insert_eq_ok h
  rw [storedSeed, storedSeed, AList.lookup_insert, AList.lookup_eq_none.mpr hnew]
  exact ⟨rfl, rfl⟩

/-- **A call never replaces a seed and returns the stored one**, whatever the others do within
these bounds. -/
lemma seedCall_ensures (fetchHost insertHost : AskarHost) (random : Except String (FixedBytes 32))
    (askar : Askar) : (seedCall fetchHost insertHost random).Ensures KeepsSeed IsStored askar := by
  intro askar₁ _
  refine ⟨fun _ => id, ?_⟩
  dsimp only [id]
  split
  · rintro bytes ⟨⟩
  · rename_i entry hfetch
    rintro bytes ⟨⟩
    rw [Askar.fetch] at hfetch
    split at hfetch
    · cases hfetch
    · rw [storedSeed, Except.ok.inj hfetch]
      rfl
  · split
    · rintro bytes ⟨⟩
    · rename_i seed
      -- others may have inserted since the fetch
      intro askar₂ _
      dsimp only
      cases hinsert : askar₂.insert insertHost "keys" "master_zkp_seed" ⟨seed.val, []⟩ with
      | error e => exact ⟨fun _ => id, fun bytes h => by cases h⟩
      | ok askar₃ =>
        obtain ⟨hnone, hsome⟩ := storedSeed_of_insert hinsert
        refine ⟨fun bytes hbytes => ?_, ?_⟩
        · rw [hnone] at hbytes
          cases hbytes
        · rintro bytes ⟨⟩
          exact hsome

/-- **Seed agreement**, for any number of calls on one open store and any schedule of their steps:
every seed that is returned is the stored one, so all are the same; and a seed that is stored stays,
whatever is scheduled after. -/
theorem seed_agreement {ι : Type} [DecidableEq ι] (askar : Askar)
    (fetchHost insertHost : ι → AskarHost) (random : ι → Except String (FixedBytes 32))
    (schedule : List ι) :
    let calls : Pool ι Askar (WalletResult Bytes) :=
      ⟨askar, fun i => seedCall (fetchHost i) (insertHost i) (random i)⟩
    let reached := calls.run schedule
    (∀ i bytes, reached.programs i = .done (.ok bytes) →
      storedSeed reached.shared = some bytes) ∧
    (∀ i j bytes bytes', reached.programs i = .done (.ok bytes) →
      reached.programs j = .done (.ok bytes') → bytes = bytes') ∧
    (∀ bytes, storedSeed askar = some bytes → storedSeed reached.shared = some bytes) ∧
    ∀ more bytes, storedSeed reached.shared = some bytes →
      storedSeed (calls.run (schedule ++ more)).shared = some bytes := by
  intro calls reached
  have hrun : ∀ {pool : Pool ι Askar (WalletResult Bytes)},
      (∀ i, (pool.programs i).Ensures KeepsSeed IsStored pool.shared) → ∀ schedule,
      KeepsSeed pool.shared (pool.run schedule).shared ∧
        ∀ i, ((pool.run schedule).programs i).Ensures KeepsSeed IsStored
          (pool.run schedule).shared :=
    Pool.ensures_run (fun _ _ _ h h' bytes hbytes => h' bytes (h bytes hbytes)) (fun _ _ => id)
      fun _ _ _ hstored hkeeps bytes hbytes => hkeeps bytes (hstored bytes hbytes)
  have hcalls : ∀ i, (calls.programs i).Ensures KeepsSeed IsStored calls.shared :=
    fun i => seedCall_ensures (fetchHost i) (insertHost i) (random i) askar
  obtain ⟨hkeeps, hensures⟩ := hrun hcalls schedule
  have hstored : ∀ i bytes, reached.programs i = .done (.ok bytes) →
      storedSeed reached.shared = some bytes := by
    intro i bytes hdone
    have hresult := hensures i
    rw [hdone] at hresult
    exact hresult bytes rfl
  refine ⟨hstored, ?_, hkeeps, ?_⟩
  · intro i j bytes bytes' hi hj
    exact Option.some.inj ((hstored i bytes hi).symm.trans (hstored j bytes' hj))
  · intro more bytes hbytes
    rw [Pool.run_append]
    exact (hrun hensures more).1 bytes hbytes

end DZTA
