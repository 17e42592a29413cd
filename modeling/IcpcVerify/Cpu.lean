import IcpcVerify.Python.Runtime

/-!
# Choice of the judge CPU

With two physical cores or more the last core is used as a whole and its other
threads are taken offline; with one core nothing is.
-/

namespace IcpcVerify.Cpu

open IcpcVerify.Python

/-- Each CPU with the threads of its core, in the order in which they were read. -/
abbrev Topology := List (ℤ × List ℤ)

structure CpuPlan where
  judgeCpu : ℤ
  offline : List ℤ
  isolated : Bool
  warnings : List PyStr
  deriving DecidableEq

def cpuError (message : PyStr) : PyError :=
  ⟨.cpu, message⟩

def checkArchAndFlags (machine : PyStr) (cpuFlags required : List PyStr) : PyM Unit :=
  let missing := required.filter fun flag => flag ≠ [] ∧ flag ∉ cpuFlags
  if machine ≠ py "x86_64" then
    throw (cpuError (py "x86_64 runner 가 필요합니다. 현재 architecture: " ++ machine))
  else if missing ≠ [] then
    throw (cpuError (py "CPU 에 다음 flag 가 없습니다: " ++
      List.intercalate (py ", ") missing))
  else return ()

/-- The cores, each as the tuple of its threads. -/
def coresOf (topology : Topology) : List (List ℤ) :=
  (topology.map Prod.snd).dedup.insertionSort (· ≤ ·)

/-- Indexing an empty tuple. -/
def indexError : PyError :=
  ⟨.index, py "tuple index out of range"⟩

/-- The plan without a requested CPU. -/
def planLastCore (cores : List (List ℤ)) (offlineSibling : Bool) : PyM CpuPlan :=
  let lastCore := cores.getLastD []
  if cores.length = 1 then
    match lastCore.getLast? with
    | none => throw indexError
    | some judgeCpu =>
        return ⟨judgeCpu, [], false,
          [py "physical core 가 1개뿐입니다. sibling 을 끄지 않고 pin 만 합니다. " ++
            py "hyperthread 간섭이 남으므로 timing 은 best-effort 입니다. " ++
            py "4 vCPU 이상 runner 를 권장합니다."]⟩
  else
    match lastCore with
    | [] => throw indexError
    | judgeCpu :: _ =>
        let siblings := lastCore.filter (· ≠ judgeCpu)
        if siblings.isEmpty then return ⟨judgeCpu, [], true, []⟩
        else if !offlineSibling then
          return ⟨judgeCpu, [], false,
            [py "offline-sibling 이 꺼져 있습니다. hyperthread 간섭이 남습니다."]⟩
        else return ⟨judgeCpu, siblings, true, []⟩

def planCpu (topology : Topology) (requested : Option ℤ) (offlineSibling : Bool) :
    PyM CpuPlan :=
  if topology.isEmpty then throw (cpuError (py "CPU topology 를 읽지 못했습니다"))
  else
    match requested with
    | some requested =>
        if requested ∉ topology.map Prod.fst then
          throw (cpuError (py "judge-cpu " ++ formatInt requested ++
            py " 는 이 runner 에 없습니다"))
        else
          return ⟨requested, [], false,
            [py "judge-cpu 를 직접 지정했습니다. sibling offline 을 하지 않습니다."]⟩
    | none => planLastCore (coresOf topology) offlineSibling

/-- Takes the planned CPUs offline.  `takeOffline` gives nothing on success and the
text of a caught exception otherwise; failures become warnings. -/
def applyCpuPlan (takeOffline : ℤ → PyM (Option PyStr)) (plan : CpuPlan) :
    PyM (List PyStr) :=
  plan.offline.foldlM (fun warnings cpu => do
    match ← takeOffline cpu with
    | none => return warnings
    | some exc => return warnings ++
        [py "cpu" ++ formatInt cpu ++ py " offline 에 실패했습니다: " ++ exc]) []

end IcpcVerify.Cpu
