/-
# Backspaces in piped input

A line that comes through a pipe may hold backspace characters.  Each takes
away the cluster before it that is still there, if any, and itself.

What is kept of a cluster is the number of its bytes, and a single byte holds
that number.  A cluster shorter than that is taken back whole
(`Backspace.step_step_key`); of a longer one a backspace takes only the bytes
above the last multiple of 256.
-/

import LineMachine.Text.Cluster.Basic

namespace LineMachine
namespace Backspace

/-- The backspace character. -/
def key : Char := Char.ofNat 0x08

/-- The line so far, its last character first, and the sizes of the clusters
that can still be taken back, the last one first. -/
structure Kept where
  reversed : Text := []
  sizes : List UInt8 := []
deriving DecidableEq, Repr, Inhabited

/-- The line so far after one more cluster.  Of a cluster of more than 256 bytes a
backspace may take bytes that begin inside a character.  The line editor aborts
then; here the whole character goes. -/
def step (kept : Kept) (cluster : Text) : Kept :=
  if cluster = [key] then
    match kept.sizes with
    | [] => kept
    | n :: sizes => ⟨kept.reversed.dropBytes n.toNat, sizes⟩
  else ⟨cluster.reverse ++ kept.reversed, .ofNat cluster.size :: kept.sizes⟩

/-- The line with its backspaces carried out. -/
def apply (line : Text) : Text := ((Cluster.cut line).foldl step {}).reversed.reverse

/-- **A backspace takes back the cluster before it,** if the cluster has fewer
than 256 bytes. -/
theorem step_step_key (kept : Kept) {cluster : Text} (hk : cluster ≠ [key])
    (hs : cluster.size < 256) : step (step kept cluster) [key] = kept := by
  have hn : (UInt8.ofNat cluster.size).toNat = Text.size cluster.reverse := by
    rw [UInt8.toNat_ofNat', Text.size_reverse, Nat.mod_eq_of_lt hs]
  simp [step, hk, hn, Text.dropBytes_size]

theorem foldl_step_of_not_mem {ks : List Text} (kept : Kept) (h : [key] ∉ ks) :
    (ks.foldl step kept).reversed = ks.flatten.reverse ++ kept.reversed := by
  induction ks generalizing kept with
  | nil => rfl
  | cons k ks ih =>
    simp only [List.mem_cons, not_or] at h
    simp [step, Ne.symm h.1, ih _ h.2]

/-- **A line without backspaces is kept as it is.** -/
theorem apply_of_not_mem {line : Text} (h : key ∉ line) : apply line = line := by
  have hk : [key] ∉ Cluster.cut line := fun hm => h <| by
    rw [← Cluster.flatten_cut line]
    exact List.mem_flatten.2 ⟨_, hm, by simp⟩
  rw [apply, foldl_step_of_not_mem {} hk]
  simp [Cluster.flatten_cut]

end Backspace
end LineMachine
