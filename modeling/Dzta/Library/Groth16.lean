import Dzta.Library.R1CS
import Dzta.Library.Sha256

/-!
# Groth16

A proof system for the constraints of one setup, with what its users may rely on: proofs have a
fixed size and survive serialization, and the system is **complete**.  A proof that was made for a
satisfied system, under a proving key of the same setup, is accepted with the public inputs of that
system, in the order in which the circuit allocated them.  Soundness and zero knowledge are not
stated here; nothing depends on them.
-/

open R1CS

/-- Groth16 over the constraints of a setup. -/
structure Groth16 {p : ℕ} (setup : List (Constraint (ZMod p))) where
  Proof : Type
  ProvingKey : Type
  VerifyingKey : Type
  /-- The keys come from one run of the setup. -/
  Paired : ProvingKey → VerifyingKey → Prop
  /-- Proves a circuit with random numbers from a seed. -/
  prove : ProvingKey → Builder (ZMod p) Unit → FixedBytes 32 → Except String Proof
  /-- Verifies a proof for public inputs; `none` is an error of the library.  Nothing is said about
  which inputs it refuses: too many or too few may as well be verified as they are. -/
  verify : VerifyingKey → Proof → List (ZMod p) → Option Bool
  serialize : Proof → Bytes
  deserialize : Bytes → Option Proof
  length_serialize : ∀ proof, (serialize proof).length = 192
  deserialize_serialize : ∀ proof, deserialize (serialize proof) = some proof
  complete : ∀ pk vk circuit seed s proof, Paired pk vk →
    circuit (System.new .prove) = .ok ((), s) → s.constraints = setup →
    Satisfies s.assignment setup → prove pk circuit seed = .ok proof →
    verify vk proof s.inputs = some true

namespace Groth16

variable {p : ℕ} (setup : List (Constraint (ZMod p)))

/-- What `hashed` takes for a proof that public inputs are satisfiable. -/
def receipt (inputs : List (ZMod p)) : FixedBytes 192 :=
  let hash := sha256 (inputs.flatMap fun x => Bytes.leBytes 32 x.val)
  ⟨hash.1 ++ hash.1 ++ hash.1 ++ hash.1 ++ hash.1 ++ hash.1, by simp [hash.2]⟩

/-- A system that is complete and nothing else: whoever runs a circuit gets a receipt for its
public inputs. -/
def hashed : Groth16 setup where
  Proof := FixedBytes 192
  ProvingKey := Unit
  VerifyingKey := Unit
  Paired _ _ := True
  prove _ circuit _ :=
    match circuit (System.new .prove) with
    | .ok (_, s) => .ok (receipt s.inputs)
    | .error _ => .error "synthesis failed"
  verify _ proof inputs := some (decide (proof = receipt inputs))
  serialize proof := proof.1
  deserialize b := if h : b.length = 192 then some ⟨b, h⟩ else none
  length_serialize proof := proof.2
  deserialize_serialize proof := dif_pos proof.2
  complete _ _ circuit _ s proof _ hrun _ _ hprove := by
    rw [hrun] at hprove
    rw [← Except.ok.inj hprove, decide_eq_true rfl]

lemma hashed_prove {circuit : Builder (ZMod p) Unit} {s : System (ZMod p)}
    (h : circuit (System.new .prove) = .ok ((), s)) (seed : FixedBytes 32) :
    (hashed setup).prove () circuit seed = .ok (receipt s.inputs) := by
  simp only [hashed, h]

end Groth16
