import TaskScript.Digest.Md5
import TaskScript.Digest.Sum
import TaskScript.Tool.Input

/-!
# Digesting — digests of inputs

- `md5sum` : digests of 128 bits
- `cksum`  : short sums, with the sizes of the inputs
-/

namespace TaskScript

namespace Tool

/-- Print a line about each input. -/
def summing (line : String → ByteArray → String) : Tool :=
  byOptions [] fun o m =>
    (orStandard o.operands).foldl (fun m name =>
      match readInput name m with
      | (.error cause, m) => failOn name cause m
      | (.ok chars, m) =>
        m.printLine (line (if o.operands.isEmpty then "" else " " ++ name)
          (Octets.bytesOf chars))) m

/-- Print the digests of inputs. -/
def md5sum : Tool :=
  summing fun name bytes =>
    Digest.hexadecimal (Digest.md5 bytes) ++ " " ++ if name.isEmpty then " -" else name

/-- Print short sums of inputs. -/
def cksum : Tool :=
  summing fun name bytes =>
    toString (Digest.redundancy bytes).toNat ++ " " ++ toString bytes.size ++ name

end Tool
end TaskScript
