import ConnectionRouter.CommandLine.Arguments

/-!
# Help texts

* `HelpTopic.text`: what is printed for a topic.
-/

namespace ConnectionRouter

def HelpTopic.text : HelpTopic → String
  | .program => "Inspect and simulate cluster connection balancing

Usage: cluster-balancer <COMMAND>

Commands:
  check-keys  Parse topology keys and print the preference tiers
  parse-url   Print the balancer config derived from a connection URL
  simulate    Open connections against a simulated cluster and print the balancer state
  help        Print this message or the help of the given subcommand(s)

Options:
  -h, --help  Print help
"
  | .checkKeys => "Parse topology keys and print the preference tiers

Usage: cluster-balancer check-keys <TEXT>

Arguments:
  <TEXT>  e.g. \"aws.us-west.us-west-2a:1,aws.us-west.*:2\"

Options:
  -h, --help  Print help
"
  | .parseUrl => "Print the balancer config derived from a connection URL

Usage: cluster-balancer parse-url <URL>

Arguments:
  <URL>\x20\x20

Options:
  -h, --help  Print help
"
  | .simulate => "Open connections against a simulated cluster and print the balancer state

Usage: cluster-balancer simulate [OPTIONS] --config <CONFIG> --topology <TOPOLOGY>

Options:
  -c, --config <CONFIG>            Balancer config (TOML)
  -t, --topology <TOPOLOGY>        Cluster description with [[nodes]] entries (TOML)
  -n, --connections <CONNECTIONS>  Number of connections to open [default: 10]
      --concurrent                 Open all connections concurrently
      --metrics                    Print Prometheus metrics after the run
  -h, --help                       Print help
"
  | .help => "Print this message or the help of the given subcommand(s)

Usage: cluster-balancer help [COMMAND]...

Arguments:
  [COMMAND]...  Print help for the subcommand(s)
"

end ConnectionRouter
