import IcpcVerify.Core.Rounding
import IcpcVerify.Core.FloatFormat
import IcpcVerify.Core.ScheduledLoop
import IcpcVerify.Core.LazyScan
import IcpcVerify.Verdicts
import IcpcVerify.Timelimits
import IcpcVerify.Compare
import IcpcVerify.Package
import IcpcVerify.Results
import IcpcVerify.Judge.Interactive
import IcpcVerify.Sandbox
import IcpcVerify.Validators
import IcpcVerify.Judge.Outcomes
import IcpcVerify.Judge.Acceptance
import IcpcVerify.Judge.LazyJudging
import IcpcVerify.Judge.Blame
import IcpcVerify.Core.Transition
import IcpcVerify.Judge.ModeAgreement
import IcpcVerify.Runner.Main
import IcpcVerify.Runner.InteractiveMain
import IcpcVerify.Runner.MainVerdict
import IcpcVerify.Runner.InteractiveRuns
import IcpcVerify.Runner.PairTimeout
import IcpcVerify.Core.StatefulRun
import IcpcVerify.Judge.Files
import IcpcVerify.Judge.NoStaleState
import IcpcVerify.Core.FallibleRun
import IcpcVerify.Judge.HardKill
import IcpcVerify.Solutions
import IcpcVerify.Cli
import IcpcVerify.Compare.Reference
import IcpcVerify.Core.Tokens
import IcpcVerify.Compare.Strictness
import IcpcVerify.Compare.Tolerance
import IcpcVerify.Compare.Flags
import IcpcVerify.Solutions.Names
import IcpcVerify.Compile
import IcpcVerify.Solutions.PythonEntry
import IcpcVerify.Cli.Isolation
import IcpcVerify.Core.TracedRun
import IcpcVerify.Python.Shlex
import IcpcVerify.Problemcfg
import IcpcVerify.Judge.Traced
import IcpcVerify.Judge.Assertions
import IcpcVerify.Judge.Messages
import IcpcVerify.Solutions.Texts
import IcpcVerify.Judge.SurrogateFree
import IcpcVerify.Cli.ResultFile
import IcpcVerify.Solutions.Accounting
import IcpcVerify.Testdata
import IcpcVerify.Timelimits.Grammar
import IcpcVerify.Cpu.Plan
import IcpcVerify.Cli.CpuFlags
import IcpcVerify.Problemcfg.Errors
import IcpcVerify.Problemcfg.Precedence
import IcpcVerify.Python.Conversions
import IcpcVerify.Core.Runs
import IcpcVerify.Cpu.Topology
import IcpcVerify.Cpu.CpuList
import IcpcVerify.Python.JsonReader
import IcpcVerify.Python.JsonText
import IcpcVerify.Python.Utf8
import IcpcVerify.Python.JsonWriter
import IcpcVerify.Python.JsonFile
import IcpcVerify.Python.Argparse
import IcpcVerify.Runner.Arguments
import IcpcVerify.Runner.RunJson
import IcpcVerify.Judge.RunnerProtocol
import IcpcVerify.Judge.AcceptedRuns
import IcpcVerify.Judge.AcceptedInteractions
import IcpcVerify.Python.JsonBytes
import IcpcVerify.Sandbox.Containers
import IcpcVerify.Judge.Requests
import IcpcVerify.Cpu.Machine
import IcpcVerify.Cpu.Hotplug
import IcpcVerify.Python.JsonIndented
import IcpcVerify.Cli.ReadBack
import IcpcVerify.Compile.Scripts
