import Ec2Wrappers.HadoopCloud.ClusterIsolation
import Ec2Wrappers.HadoopCloud.ClusterListing
import Ec2Wrappers.HadoopCloud.ClusterWiring
import Ec2Wrappers.HadoopCloud.CommandOptions
import Ec2Wrappers.HadoopCloud.HostVariables
import Ec2Wrappers.HadoopCloud.LaunchCompletion
import Ec2Wrappers.HadoopCloud.PrivilegedLaunch
import Ec2Wrappers.HadoopCloud.StorageDeletion
import Ec2Wrappers.HadoopCloud.StorageMappings
import Ec2Wrappers.Microproxy.AllowedHosts
import Ec2Wrappers.Microproxy.Connections
import Ec2Wrappers.Microproxy.PageTags
import Ec2Wrappers.Microproxy.RoundTrip
import Ec2Wrappers.Microproxy.ScoreBoardStop
import Ec2Wrappers.Subaccounts.Accounts
import Ec2Wrappers.Subaccounts.ConcurrentLaunches
import Ec2Wrappers.Subaccounts.FileHelpers
import Ec2Wrappers.Subaccounts.RequestForms
import Ec2Wrappers.Subaccounts.SpendLimit
import Ec2Wrappers.Subaccounts.SshKeyOwnership
import Ec2Wrappers.Usage.BilledHours
import Ec2Wrappers.Usage.GrandTotal
import Ec2Wrappers.Usage.ImportIsolation
import Ec2Wrappers.Usage.KeyAttribution
import Ec2Wrappers.Usage.PendingTables
import Ec2Wrappers.Usage.RecordedTermination
import Ec2Wrappers.Usage.StopIntervals
import Ec2Wrappers.Usage.UserRefresh
import Ec2Wrappers.Aws.RequestRetries
import Ec2Wrappers.Aws.RequestSigning
import Ec2Wrappers.Subaccounts.LaunchForms
import Ec2Wrappers.Subaccounts.RepeatedLaunches
