import UbuntuPush.Basic
import UbuntuPush.Util.Redialer
import UbuntuPush.Util.Backoff
import UbuntuPush.Util.AutoRedial
import UbuntuPush.Service.Postal
import UbuntuPush.Service.Mailbox
import UbuntuPush.Service.MailboxSpec
import UbuntuPush.Client.Addressee
import UbuntuPush.Client.Loop
import UbuntuPush.Client.Start
import UbuntuPush.Client.Legacy
import UbuntuPush.Client.LegacyStopper
