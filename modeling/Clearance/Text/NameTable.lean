/-
# The table of names

The names of the Unicode character database, version 14, that do not follow from a code point or from
the sounds of a syllable, and further names that it gives to characters. A row may begin with a code
point; what follows are names of this code point, the next one and so on, or of the ones after the row
before. A small letter stands for the words that a name begins with like the name before it, none for
`a`, one for `b`; the full stops behind a name stand for the words that it ends with like that one.
-/

namespace Clearance.Text

/-- Names in the scripts of Europe and the Near East. -/
def latinNames : String := "
0020aSPACEaEXCLAMATION MARKaQUOTATION.aNUMBER SIGNaDOLLAR.aPERCENT.aAMPERSANDaAPOSTROPHE
aLEFT PARENTHESISaRIGHT.aASTERISKaPLUS SIGNaCOMMAaHYPHEN-MINUSaFULL STOPaSOLIDUSaDIGIT ZERObONE
bTWObTHREEbFOURbFIVEbSIXbSEVENbEIGHTbNINEaCOLONaSEMICOLONaLESS-THAN SIGNaEQUALS.aGREATER-THAN.
aQUESTION MARKaCOMMERCIAL ATaLATIN CAPITAL LETTER AdBdCdDdEdFdGdHdIdJdKdLdMdNdOdPdQdRdSdTdUdVdWdX
dYdZaLEFT SQUARE BRACKETaREVERSE SOLIDUSaRIGHT SQUARE BRACKETaCIRCUMFLEX ACCENTaLOW LINE
aGRAVE ACCENTaLATIN SMALL LETTER AdBdCdDdEdFdGdHdIdJdKdLdMdNdOdPdQdRdSdTdUdVdWdXdYdZ
aLEFT CURLY BRACKETaVERTICAL LINEaRIGHT CURLY BRACKETaTILDE
00A0aNO-BREAK SPACEaINVERTED EXCLAMATION MARKaCENT SIGNaPOUND.aCURRENCY.aYEN.aBROKEN BAR
aSECTION SIGNaDIAERESISaCOPYRIGHT SIGNaFEMININE ORDINAL INDICATOR
aLEFT-POINTING DOUBLE ANGLE QUOTATION MARKaNOT SIGNaSOFT HYPHENaREGISTERED SIGNaMACRONaDEGREE SIGN
aPLUS-MINUS.aSUPERSCRIPT TWObTHREEaACUTE ACCENTaMICRO SIGNaPILCROW.aMIDDLE DOTaCEDILLA
aSUPERSCRIPT ONEaMASCULINE ORDINAL INDICATORaRIGHT-POINTING DOUBLE ANGLE QUOTATION MARK
aVULGAR FRACTION ONE QUARTERdHALFcTHREE QUARTERSaINVERTED QUESTION MARK
aLATIN CAPITAL LETTER A WITH GRAVEfACUTEfCIRCUMFLEXfTILDEfDIAERESISfRING ABOVEdAEdC WITH CEDILLA
dE WITH GRAVEfACUTEfCIRCUMFLEXfDIAERESISdI WITH GRAVEfACUTEfCIRCUMFLEXfDIAERESISdETHdN WITH TILDE
dO WITH GRAVEfACUTEfCIRCUMFLEXfTILDEfDIAERESISaMULTIPLICATION SIGN
aLATIN CAPITAL LETTER O WITH STROKEdU WITH GRAVEfACUTEfCIRCUMFLEXfDIAERESISdY WITH ACUTEdTHORN
bSMALL LETTER SHARP SdA WITH GRAVEfACUTEfCIRCUMFLEXfTILDEfDIAERESISfRING ABOVEdAEdC WITH CEDILLA
dE WITH GRAVEfACUTEfCIRCUMFLEXfDIAERESISdI WITH GRAVEfACUTEfCIRCUMFLEXfDIAERESISdETHdN WITH TILDE
dO WITH GRAVEfACUTEfCIRCUMFLEXfTILDEfDIAERESISaDIVISION SIGNaLATIN SMALL LETTER O WITH STROKE
dU WITH GRAVEfACUTEfCIRCUMFLEXfDIAERESISdY WITH ACUTEdTHORNdY WITH DIAERESIS
bCAPITAL LETTER A WITH MACRONbSMALL....bCAPITAL LETTER A WITH BREVEbSMALL....
bCAPITAL LETTER A WITH OGONEKbSMALL....bCAPITAL LETTER C WITH ACUTEbSMALL....
bCAPITAL LETTER C WITH CIRCUMFLEXbSMALL....bCAPITAL LETTER C WITH DOT ABOVEbSMALL.....
bCAPITAL LETTER C WITH CARONbSMALL....bCAPITAL LETTER D..bSMALL....bCAPITAL LETTER D WITH STROKE
bSMALL....bCAPITAL LETTER E WITH MACRONbSMALL....bCAPITAL LETTER E WITH BREVEbSMALL....
bCAPITAL LETTER E WITH DOT ABOVEbSMALL.....bCAPITAL LETTER E WITH OGONEKbSMALL....
bCAPITAL LETTER E WITH CARONbSMALL....bCAPITAL LETTER G WITH CIRCUMFLEXbSMALL....
bCAPITAL LETTER G WITH BREVEbSMALL....bCAPITAL LETTER G WITH DOT ABOVEbSMALL.....
bCAPITAL LETTER G WITH CEDILLAbSMALL....bCAPITAL LETTER H WITH CIRCUMFLEXbSMALL....
bCAPITAL LETTER H WITH STROKEbSMALL....bCAPITAL LETTER I WITH TILDEbSMALL....
bCAPITAL LETTER I WITH MACRONbSMALL....bCAPITAL LETTER I WITH BREVEbSMALL....
bCAPITAL LETTER I WITH OGONEKbSMALL....bCAPITAL LETTER I WITH DOT ABOVEbSMALL LETTER DOTLESS I
bCAPITAL LIGATURE IJbSMALL..bCAPITAL LETTER J WITH CIRCUMFLEXbSMALL....
bCAPITAL LETTER K WITH CEDILLAbSMALL....dKRAbCAPITAL LETTER L WITH ACUTEbSMALL....
bCAPITAL LETTER L WITH CEDILLAbSMALL....bCAPITAL LETTER L WITH CARONbSMALL....
bCAPITAL LETTER L WITH MIDDLE DOTbSMALL.....bCAPITAL LETTER L WITH STROKEbSMALL....
bCAPITAL LETTER N WITH ACUTEbSMALL....bCAPITAL LETTER N WITH CEDILLAbSMALL....
bCAPITAL LETTER N WITH CARONbSMALL....ePRECEDED BY APOSTROPHEbCAPITAL LETTER ENGbSMALL..
bCAPITAL LETTER O WITH MACRONbSMALL....bCAPITAL LETTER O WITH BREVEbSMALL....
bCAPITAL LETTER O WITH DOUBLE ACUTEbSMALL.....bCAPITAL LIGATURE OEbSMALL..
bCAPITAL LETTER R WITH ACUTEbSMALL....bCAPITAL LETTER R WITH CEDILLAbSMALL....
bCAPITAL LETTER R WITH CARONbSMALL....bCAPITAL LETTER S WITH ACUTEbSMALL....
bCAPITAL LETTER S WITH CIRCUMFLEXbSMALL....bCAPITAL LETTER S WITH CEDILLAbSMALL....
bCAPITAL LETTER S WITH CARONbSMALL....bCAPITAL LETTER T WITH CEDILLAbSMALL....
bCAPITAL LETTER T WITH CARONbSMALL....bCAPITAL LETTER T WITH STROKEbSMALL....
bCAPITAL LETTER U WITH TILDEbSMALL....bCAPITAL LETTER U WITH MACRONbSMALL....
bCAPITAL LETTER U WITH BREVEbSMALL....bCAPITAL LETTER U WITH RING ABOVEbSMALL.....
bCAPITAL LETTER U WITH DOUBLE ACUTEbSMALL.....bCAPITAL LETTER U WITH OGONEKbSMALL....
bCAPITAL LETTER W WITH CIRCUMFLEXbSMALL....bCAPITAL LETTER Y..bSMALL....
bCAPITAL LETTER Y WITH DIAERESISdZ WITH ACUTEbSMALL....bCAPITAL LETTER Z WITH DOT ABOVEbSMALL.....
bCAPITAL LETTER Z WITH CARONbSMALL....dLONG SdB WITH STROKEbCAPITAL LETTER B WITH HOOKfTOPBAR
bSMALL....bCAPITAL LETTER TONE SIXbSMALL...bCAPITAL LETTER OPEN OdC WITH HOOKbSMALL....
bCAPITAL LETTER AFRICAN DdD WITH HOOKfTOPBARbSMALL....dTURNED DELTAbCAPITAL LETTER REVERSED E
dSCHWAdOPEN EdF WITH HOOKbSMALL....bCAPITAL LETTER G..dGAMMAbSMALL LETTER HVbCAPITAL LETTER IOTA
dI WITH STROKEdK WITH HOOKbSMALL....dL WITH BARdLAMBDA WITH STROKEbCAPITAL LETTER TURNED M
dN WITH LEFT HOOKbSMALL LETTER N WITH LONG RIGHT LEGbCAPITAL LETTER O WITH MIDDLE TILDEfHORN
bSMALL....bCAPITAL LETTER OIbSMALL..bCAPITAL LETTER P WITH HOOKbSMALL....bLETTER YR
bCAPITAL LETTER TONE TWObSMALL...bCAPITAL LETTER ESHbLETTER REVERSED ESH LOOP
bSMALL LETTER T WITH PALATAL HOOKbCAPITAL LETTER T WITH.bSMALL....
bCAPITAL LETTER T WITH RETROFLEX.dU WITH HORNbSMALL....bCAPITAL LETTER UPSILONdV WITH HOOKdY..
bSMALL....bCAPITAL LETTER Z WITH STROKEbSMALL....bCAPITAL LETTER EZHeREVERSEDbSMALL...eWITH TAIL
bLETTER TWO WITH STROKEbCAPITAL LETTER TONE FIVEbSMALL...bLETTER INVERTED GLOTTAL STOP WITH STROKE
cWYNNcDENTAL CLICKcLATERAL.cALVEOLAR.cRETROFLEX.bCAPITAL LETTER DZ WITH CARON
dD WITH SMALL LETTER Z..bSMALL LETTER DZ..bCAPITAL LETTER LJdL WITH SMALL LETTER JbSMALL LETTER LJ
bCAPITAL LETTER NJdN WITH SMALL LETTER JbSMALL LETTER NJbCAPITAL LETTER A WITH CARONbSMALL....
bCAPITAL LETTER I..bSMALL....bCAPITAL LETTER O..bSMALL....bCAPITAL LETTER U..bSMALL....
bCAPITAL LETTER U WITH DIAERESIS AND MACRONbSMALL......bCAPITAL LETTER U WITH DIAERESIS AND ACUTE
bSMALL......bCAPITAL LETTER U WITH DIAERESIS AND CARONbSMALL......
bCAPITAL LETTER U WITH DIAERESIS AND GRAVEbSMALL......dTURNED E
bCAPITAL LETTER A WITH DIAERESIS AND MACRONbSMALL......bCAPITAL LETTER A WITH DOT ABOVE..
bSMALL.......bCAPITAL LETTER AE WITH.bSMALL....bCAPITAL LETTER G WITH STROKEbSMALL....
bCAPITAL LETTER G WITH CARONbSMALL....bCAPITAL LETTER K..bSMALL....bCAPITAL LETTER O WITH OGONEK
bSMALL....bCAPITAL LETTER O WITH OGONEK AND MACRONbSMALL......bCAPITAL LETTER EZH WITH CARON
bSMALL....dJ..bCAPITAL LETTER DZdD WITH SMALL LETTER ZbSMALL LETTER DZbCAPITAL LETTER G WITH ACUTE
bSMALL....bCAPITAL LETTER HWAIRdWYNNdN WITH GRAVEbSMALL....
bCAPITAL LETTER A WITH RING ABOVE AND ACUTEbSMALL.......bCAPITAL LETTER AE WITH.bSMALL....
bCAPITAL LETTER O WITH STROKE AND.bSMALL......bCAPITAL LETTER A WITH DOUBLE GRAVEbSMALL.....
bCAPITAL LETTER A WITH INVERTED BREVEbSMALL.....bCAPITAL LETTER E WITH DOUBLE GRAVEbSMALL.....
bCAPITAL LETTER E WITH INVERTED BREVEbSMALL.....bCAPITAL LETTER I WITH DOUBLE GRAVEbSMALL.....
bCAPITAL LETTER I WITH INVERTED BREVEbSMALL.....bCAPITAL LETTER O WITH DOUBLE GRAVEbSMALL.....
bCAPITAL LETTER O WITH INVERTED BREVEbSMALL.....bCAPITAL LETTER R WITH DOUBLE GRAVEbSMALL.....
bCAPITAL LETTER R WITH INVERTED BREVEbSMALL.....bCAPITAL LETTER U WITH DOUBLE GRAVEbSMALL.....
bCAPITAL LETTER U WITH INVERTED BREVEbSMALL.....bCAPITAL LETTER S WITH COMMA BELOWbSMALL.....
bCAPITAL LETTER T...bSMALL.....bCAPITAL LETTER YOGHbSMALL..bCAPITAL LETTER H WITH CARONbSMALL....
bCAPITAL LETTER N WITH LONG RIGHT LEGbSMALL LETTER D WITH CURLbCAPITAL LETTER OUbSMALL..
bCAPITAL LETTER Z WITH HOOKbSMALL....bCAPITAL LETTER A WITH DOT ABOVEbSMALL.....
bCAPITAL LETTER E WITH CEDILLAbSMALL....bCAPITAL LETTER O WITH DIAERESIS AND MACRONbSMALL......
bCAPITAL LETTER O WITH TILDE..bSMALL......bCAPITAL LETTER O WITH DOT ABOVEbSMALL.....
bCAPITAL LETTER O WITH DOT ABOVE AND MACRONbSMALL.......bCAPITAL LETTER Y WITH.bSMALL....
dL WITH CURLdN..dT..dDOTLESS JdDB DIGRAPHdQP.bCAPITAL LETTER A WITH STROKEdC..bSMALL....
bCAPITAL LETTER L WITH BARdT WITH DIAGONAL STROKEbSMALL LETTER S WITH SWASH TAILdZ...
bCAPITAL LETTER GLOTTAL STOPbSMALL...bCAPITAL LETTER B WITH STROKEdU BARdTURNED VdE WITH STROKE
bSMALL....bCAPITAL LETTER J..bSMALL....bCAPITAL LETTER SMALL Q WITH HOOK TAILbSMALL LETTER....
bCAPITAL LETTER R WITH STROKEbSMALL....bCAPITAL LETTER Y..bSMALL....dTURNED AdALPHAdTURNED.
dB WITH HOOKdOPEN OdC WITH CURLdD WITH TAILfHOOKdREVERSED EdSCHWAeWITH HOOKdOPEN EdREVERSED..
gWITH HOOKdCLOSED REVERSED OPEN EdDOTLESS J WITH STROKEdG WITH HOOKdSCRIPT GbLETTER SMALL CAPITAL.
bSMALL LETTER GAMMAdRAMS HORNdTURNED HdH WITH HOOKdHENG..dI WITH STROKEdIOTA
bLETTER SMALL CAPITAL IbSMALL LETTER L WITH MIDDLE TILDEfBELTfRETROFLEX HOOKdLEZHdTURNED M
fWITH LONG LEGdM WITH HOOKdN WITH LEFT.fRETROFLEX.bLETTER SMALL CAPITAL NbSMALL LETTER BARRED O
bLETTER SMALL CAPITAL OEbSMALL LETTER CLOSED OMEGAdPHIdTURNED RfWITH LONG LEGgHOOKdR WITH LONG LEG
fTAILfFISHHOOKdREVERSED...bLETTER SMALL CAPITAL ReINVERTED.bSMALL LETTER S WITH HOOKdESH
dDOTLESS J WITH STROKE AND HOOKdSQUAT REVERSED ESHdESH WITH CURLdTURNED TdT WITH RETROFLEX HOOK
dU BARdUPSILONdV WITH HOOKdTURNED VeWeYbLETTER SMALL CAPITAL.bSMALL LETTER Z WITH RETROFLEX HOOK
fCURLdEZHeWITH CURLbLETTER GLOTTAL STOPcPHARYNGEAL VOICED FRICATIVEcINVERTED GLOTTAL STOP
cSTRETCHED CcBILABIAL CLICKcSMALL CAPITAL BbSMALL LETTER CLOSED OPEN E
bLETTER SMALL CAPITAL G WITH HOOKeHbSMALL LETTER J WITH CROSSED-TAILdTURNED K
bLETTER SMALL CAPITAL LbSMALL LETTER Q WITH HOOKbLETTER GLOTTAL STOP WITH STROKEcREVERSED....
bSMALL LETTER DZ DIGRAPHdDEZH.dDZ DIGRAPH WITH CURLdTS DIGRAPHdTESH.dTC DIGRAPH WITH CURL
dFENG DIGRAPHdLS.dLZ.bLETTER BILABIAL PERCUSSIVEcBIDENTAL.bSMALL LETTER TURNED H WITH FISHHOOK
hAND TAILaMODIFIER LETTER SMALL HeWITH HOOKdJdRdTURNED.fWITH HOOKdCAPITAL INVERTED RdWdYcPRIME
cDOUBLE.cTURNED COMMAcAPOSTROPHEcREVERSED COMMAcRIGHT HALF RINGcLEFT..cGLOTTAL STOPcREVERSED..
cLEFT ARROWHEADcRIGHT.cUP.cDOWN.cCIRCUMFLEX ACCENTaCARONaMODIFIER LETTER VERTICAL LINEcMACRON
cACUTE ACCENTcGRAVE.cLOW VERTICAL LINEdMACRONdGRAVE ACCENTdACUTE.cTRIANGULAR COLONcHALF..
cCENTRED RIGHT HALF RINGdLEFT..cUP TACKcDOWN.cPLUS SIGNcMINUS.aBREVEaDOT ABOVEaRING.aOGONEK
aSMALL TILDEaDOUBLE ACUTE ACCENTaMODIFIER LETTER RHOTIC HOOKcCROSS ACCENTcSMALL GAMMAdLdSdX
dREVERSED GLOTTAL STOPcEXTRA-HIGH TONE BARcHIGH..cMID..cLOW..cEXTRA-LOW..cYIN DEPARTING TONE MARK
cYANG...cVOICINGcUNASPIRATEDcDOUBLE APOSTROPHEcLOW DOWN ARROWHEADdUP.dLEFT.dRIGHT.dRING
cMIDDLE GRAVE ACCENTdDOUBLE..eACUTE.cLOW TILDEcRAISED COLONcBEGIN HIGH TONEcEND..cBEGIN LOW.cEND..
cSHELFcOPEN.cLOW LEFT ARROWaCOMBINING GRAVE ACCENTbACUTE.bCIRCUMFLEX.bTILDEbMACRONbOVERLINEbBREVE
bDOT ABOVEbDIAERESISbHOOK ABOVEbRING.bDOUBLE ACUTE ACCENTbCARONbVERTICAL LINE ABOVEbDOUBLE...
cGRAVE ACCENTbCANDRABINDUbINVERTED BREVEbTURNED COMMA ABOVEb..bREVERSED..bCOMMA ABOVE RIGHT
bGRAVE ACCENT BELOWbACUTE..bLEFT TACK.bRIGHT..bLEFT ANGLE ABOVEbHORNbLEFT HALF RING BELOWbUP TACK.
bDOWN..bPLUS SIGN.bMINUS..bPALATALIZED HOOK.bRETROFLEX..bDOT.bDIAERESIS.bRING.bCOMMA.bCEDILLA
bOGONEKbVERTICAL LINE BELOWbBRIDGE.bINVERTED DOUBLE ARCH.bCARON.bCIRCUMFLEX ACCENT.bBREVE.
bINVERTED..bTILDE.bMACRON.bLOW LINEbDOUBLE..bTILDE OVERLAYbSHORT STROKE.bLONG..bSHORT SOLIDUS.
bLONG..bRIGHT HALF RING BELOWbINVERTED BRIDGE.bSQUARE.bSEAGULL.bX ABOVEbVERTICAL TILDE
bDOUBLE OVERLINEbGRAVE TONE MARKbACUTE..bGREEK PERISPOMENIcKORONIScDIALYTIKA TONOScYPOGEGRAMMENI
bBRIDGE ABOVEbEQUALS SIGN BELOWbDOUBLE VERTICAL LINE.bLEFT ANGLE.bNOT TILDE ABOVEbHOMOTHETIC.
bALMOST EQUAL TO.bLEFT RIGHT ARROW BELOWbUPWARDS..bGRAPHEME JOINERbRIGHT ARROWHEAD ABOVE
bLEFT HALF RING.bFERMATAbX BELOWbLEFT ARROWHEAD.bRIGHT..dAND UP ARROWHEAD.cHALF RING ABOVE
bDOT ABOVE RIGHTbASTERISK BELOWbDOUBLE RING.bZIGZAG ABOVEbDOUBLE BREVE BELOWdcMACRONdBELOWcTILDE
cINVERTED BREVEcRIGHTWARDS ARROW BELOWbLATIN SMALL LETTER AeEeIeOeUeCeDeHeMeReTeVeX
aGREEK CAPITAL LETTER HETAbSMALL..bCAPITAL LETTER ARCHAIC SAMPIbSMALL...bNUMERAL SIGNbLOWER..
bCAPITAL LETTER PAMPHYLIAN DIGAMMAbSMALL...
037AbYPOGEGRAMMENIbSMALL REVERSED LUNATE SIGMA SYMBOLcDOTTED...cREVERSED....bQUESTION MARK
bCAPITAL LETTER YOT
0384bTONOSbDIALYTIKA.bCAPITAL LETTER ALPHA WITH.bANO TELEIAbCAPITAL LETTER EPSILON WITH TONOS
dETA..dIOTA..
038CdOMICRON..
038EdUPSILON..dOMEGA..bSMALL LETTER IOTA WITH DIALYTIKA AND.bCAPITAL LETTER ALPHAdBETAdGAMMAdDELTA
dEPSILONdZETAdETAdTHETAdIOTAdKAPPAdLAMDAdMUdNUdXIdOMICRONdPIdRHO
03A3dSIGMAdTAUdUPSILONdPHIdCHIdPSIdOMEGAdIOTA WITH DIALYTIKAdUPSILON..
bSMALL LETTER ALPHA WITH TONOSdEPSILON..dETA..dIOTA..dUPSILON WITH DIALYTIKA AND.dALPHAdBETAdGAMMA
dDELTAdEPSILONdZETAdETAdTHETAdIOTAdKAPPAdLAMDAdMUdNUdXIdOMICRONdPIdRHOdFINAL SIGMAd.dTAUdUPSILON
dPHIdCHIdPSIdOMEGAdIOTA WITH DIALYTIKAdUPSILON..dOMICRON WITH TONOSdUPSILON..dOMEGA..
bCAPITAL KAI SYMBOLbBETA.bTHETA.bUPSILON WITH HOOK.dACUTE AND..dDIAERESIS...bPHI.bPI.bKAI.
bLETTER ARCHAIC KOPPAbSMALL...bLETTER STIGMAbSMALL..bLETTER DIGAMMAbSMALL..bLETTER KOPPAbSMALL..
bLETTER SAMPIbSMALL..aCOPTIC CAPITAL LETTER SHEIbSMALL..bCAPITAL LETTER FEIbSMALL..
bCAPITAL LETTER KHEIbSMALL..bCAPITAL LETTER HORIbSMALL..bCAPITAL LETTER GANGIAbSMALL..
bCAPITAL LETTER SHIMAbSMALL..bCAPITAL LETTER DEIbSMALL..aGREEK KAPPA SYMBOLbRHO.bLUNATE SIGMA.
bLETTER YOTbCAPITAL THETA SYMBOLbLUNATE EPSILON.bREVERSED...bCAPITAL LETTER SHObSMALL..
bCAPITAL LUNATE SIGMA SYMBOLcLETTER SANbSMALL..bRHO WITH STROKE SYMBOL
bCAPITAL REVERSED LUNATE SIGMA.cDOTTED...cREVERSED....aCYRILLIC CAPITAL LETTER IE WITH GRAVEdIO
dDJEdGJEdUKRAINIAN IEdDZEdBYELORUSSIAN-UKRAINIAN IdYIdJEdLJEdNJEdTSHEdKJEdI WITH GRAVEdSHORT U
dDZHEdAdBEdVEdGHEdDEdIEdZHEdZEdIdSHORT.dKAdELdEMdENdOdPEdERdESdTEdUdEFdHAdTSEdCHEdSHAdSHCHA
dHARD SIGNdYERUdSOFT SIGNdEdYUdYAbSMALL LETTER AdBEdVEdGHEdDEdIEdZHEdZEdIdSHORT.dKAdELdEMdENdOdPE
dERdESdTEdUdEFdHAdTSEdCHEdSHAdSHCHAdHARD SIGNdYERUdSOFT SIGNdEdYUdYAdIE WITH GRAVEdIOdDJEdGJE
dUKRAINIAN IEdDZEdBYELORUSSIAN-UKRAINIAN IdYIdJEdLJEdNJEdTSHEdKJEdI WITH GRAVEdSHORT UdDZHE
bCAPITAL LETTER OMEGAbSMALL..bCAPITAL LETTER YATbSMALL..bCAPITAL LETTER IOTIFIED EbSMALL...
bCAPITAL LETTER LITTLE YUSbSMALL...bCAPITAL LETTER IOTIFIED..bSMALL....bCAPITAL LETTER BIG.
bSMALL...bCAPITAL LETTER IOTIFIED..bSMALL....bCAPITAL LETTER KSIbSMALL..bCAPITAL LETTER PSI
bSMALL..bCAPITAL LETTER FITAbSMALL..bCAPITAL LETTER IZHITSAbSMALL..
bCAPITAL LETTER IZHITSA WITH DOUBLE GRAVE ACCENTbSMALL......bCAPITAL LETTER UKbSMALL..
bCAPITAL LETTER ROUND OMEGAbSMALL...bCAPITAL LETTER OMEGA WITH TITLObSMALL....bCAPITAL LETTER OT
bSMALL..bCAPITAL LETTER KOPPAbSMALL..bTHOUSANDS SIGNaCOMBINING CYRILLIC TITLOcPALATALIZATION
cDASIA PNEUMATAcPSILI.cPOKRYTIEcHUNDRED THOUSANDS SIGNcMILLIONS.
aCYRILLIC CAPITAL LETTER SHORT I WITH TAILbSMALL.....bCAPITAL LETTER SEMISOFT SIGNbSMALL...
bCAPITAL LETTER ER WITH TICKbSMALL....bCAPITAL LETTER GHE WITH UPTURNbSMALL....
bCAPITAL LETTER GHE WITH STROKEbSMALL....bCAPITAL LETTER GHE WITH MIDDLE HOOKbSMALL.....
bCAPITAL LETTER ZHE WITH DESCENDERbSMALL....bCAPITAL LETTER ZE..bSMALL....bCAPITAL LETTER KA..
bSMALL....bCAPITAL LETTER KA WITH VERTICAL STROKEbSMALL.....bCAPITAL LETTER KA WITH.bSMALL....
bCAPITAL LETTER BASHKIR KAbSMALL...bCAPITAL LETTER EN WITH DESCENDERbSMALL....
bCAPITAL LIGATURE EN GHEbSMALL...bCAPITAL LETTER PE WITH MIDDLE HOOKbSMALL.....
bCAPITAL LETTER ABKHASIAN HAbSMALL...bCAPITAL LETTER ES WITH DESCENDERbSMALL....
bCAPITAL LETTER TE..bSMALL....bCAPITAL LETTER STRAIGHT UbSMALL...
bCAPITAL LETTER STRAIGHT U WITH STROKEbSMALL.....bCAPITAL LETTER HA WITH DESCENDERbSMALL....
bCAPITAL LIGATURE TE TSEbSMALL...bCAPITAL LETTER CHE WITH DESCENDERbSMALL....
bCAPITAL LETTER CHE WITH VERTICAL STROKEbSMALL.....bCAPITAL LETTER SHHAbSMALL..
bCAPITAL LETTER ABKHASIAN CHEbSMALL...bCAPITAL LETTER ABKHASIAN CHE WITH DESCENDERbSMALL.....
bLETTER PALOCHKAbCAPITAL LETTER ZHE WITH BREVEbSMALL....bCAPITAL LETTER KA WITH HOOKbSMALL....
bCAPITAL LETTER EL WITH TAILbSMALL....bCAPITAL LETTER EN WITH HOOKbSMALL....
bCAPITAL LETTER EN WITH TAILbSMALL....bCAPITAL LETTER KHAKASSIAN CHEbSMALL...
bCAPITAL LETTER EM WITH TAILbSMALL....dPALOCHKAbCAPITAL LETTER A WITH BREVEbSMALL....
bCAPITAL LETTER A WITH DIAERESISbSMALL....bCAPITAL LIGATURE A IEbSMALL...
bCAPITAL LETTER IE WITH BREVEbSMALL....bCAPITAL LETTER SCHWAbSMALL..
bCAPITAL LETTER SCHWA WITH DIAERESISbSMALL....bCAPITAL LETTER ZHE..bSMALL....bCAPITAL LETTER ZE..
bSMALL....bCAPITAL LETTER ABKHASIAN DZEbSMALL...bCAPITAL LETTER I WITH MACRONbSMALL....
bCAPITAL LETTER I WITH DIAERESISbSMALL....bCAPITAL LETTER O..bSMALL....bCAPITAL LETTER BARRED O
bSMALL...bCAPITAL LETTER BARRED O WITH DIAERESISbSMALL.....bCAPITAL LETTER E..bSMALL....
bCAPITAL LETTER U WITH MACRONbSMALL....bCAPITAL LETTER U WITH DIAERESISbSMALL....
bCAPITAL LETTER U WITH DOUBLE ACUTEbSMALL.....bCAPITAL LETTER CHE WITH DIAERESISbSMALL....
bCAPITAL LETTER GHE WITH DESCENDERbSMALL....bCAPITAL LETTER YERU WITH DIAERESISbSMALL....
bCAPITAL LETTER GHE WITH STROKE AND HOOKbSMALL......bCAPITAL LETTER HA WITH.bSMALL....
bCAPITAL LETTER HA WITH STROKEbSMALL....bCAPITAL LETTER KOMI DEbSMALL...bCAPITAL LETTER KOMI DJE
bSMALL...bCAPITAL LETTER KOMI ZJEbSMALL...bCAPITAL LETTER KOMI DZJEbSMALL...
bCAPITAL LETTER KOMI LJEbSMALL...bCAPITAL LETTER KOMI NJEbSMALL...bCAPITAL LETTER KOMI SJE
bSMALL...bCAPITAL LETTER KOMI TJEbSMALL...bCAPITAL LETTER REVERSED ZEbSMALL...
bCAPITAL LETTER EL WITH HOOKbSMALL....bCAPITAL LETTER LHAbSMALL..bCAPITAL LETTER RHAbSMALL..
bCAPITAL LETTER YAEbSMALL..bCAPITAL LETTER QAbSMALL..bCAPITAL LETTER WEbSMALL..
bCAPITAL LETTER ALEUT KAbSMALL...bCAPITAL LETTER EL WITH MIDDLE HOOKbSMALL.....
bCAPITAL LETTER EN...bSMALL.....bCAPITAL LETTER PE WITH DESCENDERbSMALL....bCAPITAL LETTER SHHA..
bSMALL....bCAPITAL LETTER EN WITH LEFT HOOKbSMALL.....bCAPITAL LETTER DZZHEbSMALL..
bCAPITAL LETTER DCHEbSMALL..bCAPITAL LETTER EL WITH DESCENDERbSMALL....
0531aARMENIAN CAPITAL LETTER AYBdBENdGIMdDAdECHdZAdEHdETdTOdZHEdINIdLIWNdXEHdCAdKENdHOdJAdGHAD
dCHEHdMENdYIdNOWdSHAdVOdCHAdPEHdJHEHdRAdSEHdVEWdTIWNdREHdCOdYIWNdPIWRdKEHdOHdFEH
0559bMODIFIER LETTER LEFT HALF RINGbAPOSTROPHEbEMPHASIS MARKbEXCLAMATION.bCOMMAbQUESTION MARK
bABBREVIATION.bSMALL LETTER TURNED AYBd.dBENdGIMdDAdECHdZAdEHdETdTOdZHEdINIdLIWNdXEHdCAdKENdHOdJA
dGHADdCHEHdMENdYIdNOWdSHAdVOdCHAdPEHdJHEHdRAdSEHdVEWdTIWNdREHdCOdYIWNdPIWRdKEHdOHdFEH
cLIGATURE ECH YIWNcLETTER YI WITH STROKEbFULL STOPbHYPHEN
058DaRIGHT-FACING ARMENIAN ETERNITY SIGNaLEFT-FACING...aARMENIAN DRAM.
0591aHEBREW ACCENT ETNAHTAcSEGOLcSHALSHELETcZAQEF QATANdGADOLcTIPEHAcREVIAcZARQAcPASHTAcYETIV
cTEVIRcGERESHdMUQDAMcGERSHAYIMcQARNEY PARAcTELISHA GEDOLAcPAZERcATNAH HAFUKHcMUNAHcMAHAPAKHcMERKHA
dKEFULAcDARGAcQADMAcTELISHA QETANAcYERAH BEN YOMOcOLEcILUYcDEHIcZINORbMARK MASORA CIRCLE
bPOINT SHEVAcHATAF SEGOLdPATAHdQAMATScHIRIQcTSEREcSEGOLcPATAHcQAMATScHOLAMdHASER FOR VAVcQUBUTS
cDAGESH OR MAPIQcMETEGbPUNCTUATION MAQAFbPOINT RAFEbPUNCTUATION PASEQbPOINT SHIN DOTcSIN.
bPUNCTUATION SOF PASUQbMARK UPPER DOTcLOWER.bPUNCTUATION NUN HAFUKHAbPOINT QAMATS QATAN
05D0bLETTER ALEFcBETcGIMELcDALETcHEcVAVcZAYINcHETcTETcYODcFINAL KAFc.cLAMEDcFINAL MEMc.cFINAL NUN
c.cSAMEKHcAYINcFINAL PEc.cFINAL TSADIc.cQOFcRESHcSHINcTAV
05EFbYOD TRIANGLEbLIGATURE YIDDISH DOUBLE VAVdVAV YODdDOUBLE.bPUNCTUATION GERESHcGERSHAYIM
0600aARABIC NUMBER SIGNbSIGN SANAHbFOOTNOTE MARKERbSIGN SAFHAcSAMVATbNUMBER MARK ABOVE
aARABIC-INDIC CUBE ROOTbFOURTH.aARABIC RAYaARABIC-INDIC PER MILLE SIGNcTEN THOUSAND.aAFGHANI.
aARABIC COMMAbDATE SEPARATORbPOETIC VERSE SIGNbSIGN MISRAcSALLALLAHOU ALAYHE WASSALLAM
cALAYHE ASSALLAMcRAHMATULLAH ALAYHEcRADI ALLAHOU ANHUcTAKHALLUSbSMALL HIGH TAH
dLIGATURE ALEF WITH LAM WITH YEHdZAINcFATHAcDAMMAcKASRAbSEMICOLONbLETTER MARKbEND OF TEXT.
bTRIPLE DOT PUNCTUATION.bQUESTION.bLETTER KASHMIRI YEHcHAMZAcALEF WITH MADDA ABOVEeHAMZA.cWAW...
cALEF WITH HAMZA BELOWcYEH WITH HAMZA ABOVEcALEFcBEHcTEH MARBUTAdcTHEHcJEEMcHAHcKHAHcDALcTHALcREH
cZAINcSEENcSHEENcSADcDADcTAHcZAHcAINcGHAINcKEHEH WITH TWO DOTS ABOVEeTHREE DOTS BELOW
cFARSI YEH WITH INVERTED VfTWO DOTS ABOVEfTHREE..bTATWEELbLETTER FEHcQAFcKAFcLAMcMEEMcNOONcHEHcWAW
cALEF MAKSURAcYEHbFATHATANbDAMMATANbKASRATANbFATHAbDAMMAbKASRAbSHADDAbSUKUNbMADDAH ABOVEbHAMZA.
cBELOWbSUBSCRIPT ALEFbINVERTED DAMMAbMARK NOON GHUNNAbZWARAKAYbVOWEL SIGN SMALL V ABOVE
dINVERTED...dDOT BELOWbREVERSED DAMMAbFATHA WITH TWO DOTSbWAVY HAMZA BELOWaARABIC-INDIC DIGIT ZERO
cONEcTWOcTHREEcFOURcFIVEcSIXcSEVENcEIGHTcNINEaARABIC PERCENT SIGNbDECIMAL SEPARATORbTHOUSANDS.
bFIVE POINTED STARbLETTER DOTLESS BEHdQAFcSUPERSCRIPT ALEFcALEF WASLAdWITH WAVY HAMZA ABOVEgBELOW
cHIGH HAMZAeALEFeWAWcU WITH HAMZA ABOVEcHIGH HAMZA YEHcTTEHcTTEHEHcBEEHcTEH WITH RING
eTHREE DOTS ABOVE DOWNWARDScPEHcTEHEHcBEHEHcHAH WITH HAMZA ABOVEeTWO DOTS VERTICAL.cNYEHcDYEH
cHAH WITH THREE DOTS ABOVEcTCHEHcTCHEHEHcDDALcDAL WITH RINGeDOT BELOWgAND SMALL TAHcDAHALcDDAHAL
cDULcDAL WITH THREE DOTS ABOVE DOWNWARDSeFOUR DOTS ABOVEcRREHcREH WITH SMALL VeRINGeDOT BELOW
eSMALL V.eDOT BELOW AND DOT ABOVEeTWO DOTS.cJEHcREH WITH FOUR DOTS ABOVE
cSEEN WITH DOT BELOW AND DOT.eTHREE DOTS BELOWhAND THREE DOTS ABOVEcSAD WITH TWO DOTS BELOW
eTHREE DOTS ABOVEcTAH....cAIN....cDOTLESS FEHcFEH WITH DOT MOVED BELOWf.cVEH
cFEH WITH THREE DOTS BELOWcPEHEHcQAF WITH DOT ABOVEeTHREE DOTS.cKEHEHcSWASH KAFcKAF WITH RING
eDOT ABOVEcNGcKAF WITH THREE DOTS BELOWcGAFdWITH RINGcNGOEHcGAF WITH TWO DOTS BELOWcGUEH
cGAF WITH THREE DOTS ABOVEcLAM WITH SMALL VeDOT ABOVEeTHREE DOTS.gBELOWcNOON WITH DOT.dGHUNNA
cRNOONcNOON WITH RINGeTHREE DOTS ABOVEcHEH DOACHASHMEEcTCHEH WITH DOT ABOVEcHEH WITH YEH.dGOAL
eWITH HAMZA ABOVEcTEH MARBUTA GOALcWAW WITH RINGcKIRGHIZ OEc.cUcYUcKIRGHIZ.
cWAW WITH TWO DOTS ABOVEcVEcFARSI YEHcYEH WITH TAILeSMALL VcWAW WITH DOT ABOVEcE
cYEH WITH THREE DOTS BELOWdBARREEeWITH HAMZA ABOVEbFULL STOPbLETTER AE
bSMALL HIGH LIGATURE SAD WITH LAM WITH ALEF MAKSURAeQAF.....dMEEM INITIAL FORMdLAM ALEFdJEEM
dTHREE DOTSdSEENbEND OF AYAHbSTART OF RUB EL HIZBbSMALL HIGH ROUNDED ZEROdUPRIGHT RECTANGULAR.
dDOTLESS HEAD OF KHAHdMEEM ISOLATED FORMcLOW SEENcHIGH MADDAcWAWcYEHcHIGH.dNOONbPLACE OF SAJDAH
bEMPTY CENTRE LOW STOPdHIGH.bROUNDED HIGH STOP WITH FILLED CENTREbSMALL LOW MEEM
bLETTER DAL WITH INVERTED VcREH...aEXTENDED ARABIC-INDIC DIGIT ZEROdONEdTWOdTHREEdFOURdFIVEdSIX
dSEVENdEIGHTdNINEaARABIC LETTER SHEEN WITH DOT BELOWcDAD...cGHAIN...bSIGN SINDHI AMPERSAND
dPOSTPOSITION MENbLETTER HEH WITH INVERTED VaSYRIAC END OF PARAGRAPHbSUPRALINEAR FULL STOP
bSUBLINEAR..bSUPRALINEAR COLONbSUBLINEAR.bHORIZONTAL.bCOLON SKEWED LEFTdRIGHT
bSUPRALINEAR COLON SKEWED LEFTbSUBLINEAR COLON SKEWED RIGHTbCONTRACTIONbHARKLEAN OBELUScMETOBELUS
cASTERISCUS
070FbABBREVIATION MARKbLETTER ALAPHcSUPERSCRIPT.cBETHcGAMALdGARSHUNIcDALATHcDOTLESS DALATH RISHcHE
cWAWcZAINcHETHcTETHdGARSHUNIcYUDHdHEcKAPHcLAMADHcMIMcNUNcSEMKATHcFINAL.cEcPEcREVERSED.cSADHEcQAPH
cRISHcSHINcTAWcPERSIAN BHETHdGHAMALdDHALATHbPTHAHA ABOVEcBELOWcDOTTEDbZQAPHA ABOVEcBELOWcDOTTED
bRBASA ABOVEcBELOWbDOTTED ZLAMA HORIZONTALdANGULARbHBASA ABOVEcBELOWbHBASA-ESASA DOTTED
bESASA ABOVEcBELOWbRWAHAbFEMININE DOTbQUSHSHAYAbRUKKAKHAbTWO VERTICAL DOTS ABOVEeBELOW
bTHREE DOTS ABOVEdBELOWbOBLIQUE LINE ABOVEdBELOWbMUSICbBARREKH
074DbLETTER SOGDIAN ZHAINdKHAPHdFEaARABIC LETTER BEH WITH THREE DOTS HORIZONTALLY BELOW
eDOT BELOW AND THREE DOTS ABOVEeTHREE DOTS POINTING UPWARDS BELOWjAND TWO DOTS ABOVE
eTWO DOTS BELOW AND DOT.eINVERTED SMALL V BELOWeSMALL VcHAH WITH TWO DOTS ABOVE
eTHREE DOTS POINTING UPWARDS BELOWcDAL WITH TWO DOTS VERTICALLY BELOW AND SMALL TAH
eINVERTED SMALL V BELOWcREH WITH STROKEcSEEN WITH FOUR DOTS ABOVEcAIN WITH TWO..
eTHREE DOTS POINTING DOWNWARDS.eTWO DOTS VERTICALLY.cFEH WITH TWO DOTS BELOW
eTHREE DOTS POINTING UPWARDS.cKEHEH WITH DOT ABOVEeTHREE DOTS.gPOINTING UPWARDS BELOW
cMEEM WITH DOT ABOVEfBELOWcNOON WITH TWO DOTS.eSMALL TAHfVcLAM WITH BAR
cREH WITH TWO DOTS VERTICALLY ABOVEeHAMZA.cSEEN WITH TWO DOTS VERTICALLY.
cHAH WITH SMALL ARABIC LETTER TAH BELOWiAND TWO DOTScSEEN........cREH........
cHAH WITH SMALL ARABIC LETTER TAH ABOVEcALEF WITH EXTENDED ARABIC-INDIC DIGIT TWO.hTHREE.
cFARSI YEH WITH EXTENDED ARABIC-INDIC DIGIT TWO.iTHREE.iFOUR BELOW
cWAW WITH EXTENDED ARABIC-INDIC DIGIT TWO ABOVEhTHREE.
cYEH BARREE WITH EXTENDED ARABIC-INDIC DIGIT TWO.iTHREE.
cHAH WITH EXTENDED ARABIC-INDIC DIGIT FOUR BELOWcSEEN WITH EXTENDED ARABIC-INDIC DIGIT FOUR ABOVE
eINVERTED VcKAF WITH TWO DOTS ABOVEaTHAANA LETTER HAAcSHAVIYANIcNOONUcRAAcBAAcLHAVIYANIcKAAFU
cALIFUcVAAVUcMEEMUcFAAFUcDHAALUcTHAAcLAAMUcGAAFUcGNAVIYANIcSEENUcDAVIYANIcZAVIYANIcTAVIYANIcYAA
cPAVIYANIcJAVIYANIcCHAVIYANIcTTAAcHHAAcKHAAcTHAALUcZAAcSHEENUcSAADHUcDAADHUcTOcZOcAINUcGHAINU
cQAAFUcWAAVUbABAFILIbAABAAFILIbIBIFILIbEEBEEFILIbUBUFILIbOOBOOFILIbEBEFILIbEYBEYFILIbOBOFILI
bOABOAFILIbSUKUNbLETTER NAA
07C0aNKO DIGIT ZEROcONEcTWOcTHREEcFOURcFIVEcSIXcSEVENcEIGHTcNINEbLETTER AcEEcIcEcUcOOcOcDAGBASINNA
cNcBAcPAcTAcJAcCHAcDAcRAcRRAcSAcGBAcFAcKAcLAcNA WOLOSOcMAcNYAcNAcHAcWAcYAcNYA WOLOSOcJONA JAdCHA
dRAbCOMBINING SHORT HIGH TONEdLOW.dRISING.cLONG DESCENDING.dHIGH.dLOW.dRISING.cNASALIZATION MARK
cDOUBLE DOT ABOVEbHIGH TONE APOSTROPHEbLOW..bSYMBOL OO DENNENcGBAKURUNENbCOMMAbEXCLAMATION MARK
bLAJANYALAN
07FDbDANTAYALANbDOROME SIGNbTAMAN.aSAMARITAN LETTER ALAFcBITcGAMANcDALATcIYcBAAcZENcITcTITcYUT
cKAAFcLABATcMIMcNUNcSINGAATcINcFIcTSAADIYcQUFcRISHcSHANcTAAFbMARK INcIN-ALAFcOCCLUSIONcDAGESH
bMODIFIER LETTER EPENTHETIC YUTbMARK..bVOWEL SIGN LONG Ed.dOVERLONG AAdLONG.d.dOVERLONG AdLONG.d.
bMODIFIER LETTER SHORT.bVOWEL SIGN..dLONG Ud.bMODIFIER LETTER IbVOWEL SIGN LONG.d.dOdSUKUN
bMARK NEQUDAA
0830bPUNCTUATION.cAFSAAQcANGEDcBAUcATMAAUcSHIYYAALAAbABBREVIATION MARKbPUNCTUATION MELODIC QITSA
cZIQAAcQITSAcZAEFcTURUcARKAANUcSOF MASHFAATcANNAAU
0840aMANDAIC LETTER HALQAcABcAGcADcAHcUSHENNAcAZcITcATTcAKSAcAKcALcAMcANcAScINcAPcASZcAQcARcASHcAT
cDUSHENNAcKADcAINbAFFRICATION MARKbVOCALIZATION.bGEMINATION.
085EbPUNCTUATION
0860aSYRIAC LETTER MALAYALAM NGAdJAdNYAdTTAdNNAdNNNAdBHAdRAdLLAdLLLAdSSA
0870aARABIC LETTER ALEF WITH ATTACHED FATHAfTOP RIGHT.eRIGHT MIDDLE STROKEeLEFT..eATTACHED KASRA
fBOTTOM RIGHT.fROUND DOT ABOVEfRIGHT ROUND DOTfLEFT..fROUND DOT BELOWeDOT ABOVE
eATTACHED TOP RIGHT FATHA AND..eRIGHT MIDDLE STROKE...eATTACHED BOTTOM RIGHT KASRA...
fTOP RIGHT FATHA AND LEFT RINGeRIGHT MIDDLE STROKE...eATTACHED BOTTOM RIGHT KASRA...fRIGHT HAMZA
fLEFT.bTATWEEL WITH OVERSTRUCK.eWAWdTWO DOTS BELOWbLETTER THIN YEHbBASELINE ROUND DOTbRAISED..
bLETTER NOON WITH INVERTED SMALL VcHAH WITH INVERTED SMALL V BELOWcTAH WITH DOT.eTHREE DOTS.
cKEHEH WITH TWO DOTS VERTICALLY.bVERTICAL TAIL
0890bPOUND MARK ABOVEbPIASTRE..
0898bSMALL HIGH WORD AL-JUZcLOW WORD ISHMAAMeIMAALAeTASHEELbMADDA WAAJIB
bSUPERSCRIPT ALEF MOKHASSASbDOUBLED MADDAbHALF MADDA OVER.bLETTER BEH WITH SMALL V BELOW
eHAMZA ABOVEcJEEM WITH TWO DOTS.cTAH....cFEH WITH DOT BELOW AND THREE..cQAF WITH DOT BELOW
cLAM WITH DOUBLE BARcMEEM WITH THREE DOTS ABOVEcYEH WITH TWO DOTS BELOW AND HAMZA.iDOT.
cREH WITH LOOPcWAW WITH DOT WITHINcROHINGYA YEHcLOW ALEFcDAL WITH THREE DOTS BELOWcSAD....
cGAF WITH INVERTED STROKEcSTRAIGHT WAWcZAIN WITH INVERTED V ABOVEcAIN WITH THREE DOTS BELOW
cKAF WITH DOT.cQAF WITH DOT BELOW AND NO DOTS ABOVEcBEH WITH SMALL MEEM.cPEH....
cTEH WITH SMALL TEH.cREH WITH SMALL NOON.cYEH WITH TWO DOTS BELOW AND...cAFRICAN FEHdQAFdNOON
cPEH WITH SMALL VcTEH...cTTEH...cTCHEH...cKEHEH...cGHAIN WITH THREE DOTS ABOVEcAFRICAN QAF....
cJEEM....gBELOWcLAM WITH SMALL ARABIC LETTER TAH ABOVEcGRAFbSMALL FARSI YEHcHIGH..
dYEH BARREE WITH TWO DOTS BELOWdWORD SAHdZAHbLARGE ROUND DOT ABOVEeBELOWbSUKUN.bLARGE CIRCLE.
cROUND DOT INSIDE..bSMALL LOW WAWcHIGH WORD AR-RUBdSADdAINdQAFdNOON WITH KASRAcLOW...
cHIGH WORD ATH-THALATHAeAS-SAJDAeAN-NISFeSAKTAeQIFeWAQFAdFOOTNOTE MARKERdSIGN SAFHA
bDISPUTED END OF AYAHbTURNED DAMMA BELOWbCURLY FATHAcDAMMAcKASRAcFATHATANcDAMMATANcKASRATAN
bTONE ONE DOT ABOVEcTWO DOTS.cLOOP.cONE DOT BELOWcTWO DOTS.cLOOP.bOPEN FATHATANcDAMMATANcKASRATAN
bSMALL HIGH WAWbFATHA WITH RINGdDOT ABOVEbKASRA WITH DOT BELOWbLEFT ARROWHEAD ABOVEbRIGHT..
bLEFT ARROWHEAD BELOWbRIGHT..bDOUBLE RIGHT ARROWHEAD ABOVEfWITH DOTb.....bDAMMA..
bMARK SIDEWAYS NOON GHUNNA"

/-- Names in the scripts of South and Southeast Asia, Africa and America. -/
def southernNames : String := "
0900aDEVANAGARI SIGN INVERTED CANDRABINDUc.cANUSVARAcVISARGAbLETTER SHORT Ac.cAAcIcIIcUcUU
cVOCALIC RdLcCANDRA EcSHORT.c.cAIcCANDRA OcSHORT.c.cAUcKAcKHAcGAcGHAcNGAcCAcCHAcJAcJHAcNYAcTTA
cTTHAcDDAcDDHAcNNAcTAcTHAcDAcDHAcNAcNNNAcPAcPHAcBAcBHAcMAcYAcRAcRRAcLAcLLAcLLLAcVAcSHAcSSAcSAcHA
bVOWEL SIGN OEdOOEbSIGN NUKTAcAVAGRAHAbVOWEL SIGN AAdIdIIdUdUUdVOCALIC ReRRdCANDRA EdSHORT.d.dAI
dCANDRA OdSHORT.d.dAUbSIGN VIRAMAbVOWEL SIGN PRISHTHAMATRA EdAWbOMbSTRESS SIGN UDATTAdANUDATTA
bGRAVE ACCENTbACUTE.bVOWEL SIGN CANDRA LONG EdUEdUUEbLETTER QAcKHHAcGHHAcZAcDDDHAcRHAcFAcYYA
cVOCALIC RRdLLbVOWEL SIGN VOCALIC LeLLbDANDAbDOUBLE.bDIGIT ZEROcONEcTWOcTHREEcFOURcFIVEcSIXcSEVEN
cEIGHTcNINEbABBREVIATION SIGNbSIGN HIGH SPACING DOTbLETTER CANDRA AcOEcOOEcAWcUEcUUEcMARWARI DDA
cZHAcHEAVY YAcGGAcJJAcGLOTTAL STOPcDDDAcBBAaBENGALI ANJIbSIGN CANDRABINDUcANUSVARAcVISARGA
0985bLETTER AcAAcIcIIcUcUUcVOCALIC RdL
098FcEcAI
0993cOcAUcKAcKHAcGAcGHAcNGAcCAcCHAcJAcJHAcNYAcTTAcTTHAcDDAcDDHAcNNAcTAcTHAcDAcDHAcNA
09AAcPAcPHAcBAcBHAcMAcYAcRA
09B2cLA
09B6cSHAcSSAcSAcHA
09BCbSIGN NUKTAcAVAGRAHAbVOWEL SIGN AAdIdIIdUdUUdVOCALIC ReRR
09C7dEdAI
09CBdOdAUbSIGN VIRAMAbLETTER KHANDA TA
09D7bAU LENGTH MARK
09DCbLETTER RRAcRHA
09DFcYYAcVOCALIC RRdLLbVOWEL SIGN VOCALIC LeLL
09E6bDIGIT ZEROcONEcTWOcTHREEcFOURcFIVEcSIXcSEVENcEIGHTcNINEbLETTER RA WITH MIDDLE DIAGONALeLOWER.
bRUPEE MARKcSIGNbCURRENCY NUMERATOR ONEdTWOdTHREEdFOURdONE LESS THAN THE DENOMINATOR
cDENOMINATOR SIXTEENbISSHARbGANDA MARKbLETTER VEDIC ANUSVARAbABBREVIATION SIGNbSANDHI MARK
0A01aGURMUKHI SIGN ADAK BINDIc.cVISARGA
0A05bLETTER AcAAcIcIIcUcUU
0A0FcEEcAI
0A13cOOcAUcKAcKHAcGAcGHAcNGAcCAcCHAcJAcJHAcNYAcTTAcTTHAcDDAcDDHAcNNAcTAcTHAcDAcDHAcNA
0A2AcPAcPHAcBAcBHAcMAcYAcRA
0A32cLAcLLA
0A35cVAcSHA
0A38cSAcHA
0A3CbSIGN NUKTA
0A3EbVOWEL SIGN AAdIdIIdUdUU
0A47dEEdAI
0A4BdOOdAUbSIGN VIRAMA
0A51cUDAAT
0A59bLETTER KHHAcGHHAcZAcRRA
0A5EcFA
0A66bDIGIT ZEROcONEcTWOcTHREEcFOURcFIVEcSIXcSEVENcEIGHTcNINEbTIPPIbADDAKbIRIbURAbEK ONKAR
bSIGN YAKASHbABBREVIATION SIGN
0A81aGUJARATI SIGN CANDRABINDUcANUSVARAcVISARGA
0A85bLETTER AcAAcIcIIcUcUUcVOCALIC RdLbVOWEL CANDRA E
0A8FbLETTER.cAIbVOWEL CANDRA O
0A93bLETTER.cAUcKAcKHAcGAcGHAcNGAcCAcCHAcJAcJHAcNYAcTTAcTTHAcDDAcDDHAcNNAcTAcTHAcDAcDHAcNA
0AAAcPAcPHAcBAcBHAcMAcYAcRA
0AB2cLAcLLA
0AB5cVAcSHAcSSAcSAcHA
0ABCbSIGN NUKTAcAVAGRAHAbVOWEL SIGN AAdIdIIdUdUUdVOCALIC ReRRdCANDRA E
0AC7d.dAIdCANDRA O
0ACBd.dAUbSIGN VIRAMA
0AD0bOM
0AE0bLETTER VOCALIC RRdLLbVOWEL SIGN VOCALIC LeLL
0AE6bDIGIT ZEROcONEcTWOcTHREEcFOURcFIVEcSIXcSEVENcEIGHTcNINEbABBREVIATION SIGNbRUPEE.
0AF9bLETTER ZHAbSIGN SUKUNcSHADDAcMADDAHcTHREE-DOT NUKTA ABOVEcCIRCLE..cTWO-CIRCLE..
0B01aORIYA SIGN CANDRABINDUcANUSVARAcVISARGA
0B05bLETTER AcAAcIcIIcUcUUcVOCALIC RdL
0B0FcEcAI
0B13cOcAUcKAcKHAcGAcGHAcNGAcCAcCHAcJAcJHAcNYAcTTAcTTHAcDDAcDDHAcNNAcTAcTHAcDAcDHAcNA
0B2AcPAcPHAcBAcBHAcMAcYAcRA
0B32cLAcLLA
0B35cVAcSHAcSSAcSAcHA
0B3CbSIGN NUKTAcAVAGRAHAbVOWEL SIGN AAdIdIIdUdUUdVOCALIC ReRR
0B47dEdAI
0B4BdOdAUbSIGN VIRAMA
0B55cOVERLINEbAI LENGTH MARKbAU..
0B5CbLETTER RRAcRHA
0B5FcYYAcVOCALIC RRdLLbVOWEL SIGN VOCALIC LeLL
0B66bDIGIT ZEROcONEcTWOcTHREEcFOURcFIVEcSIXcSEVENcEIGHTcNINEbISSHARbLETTER WAbFRACTION ONE QUARTER
dHALFcTHREE QUARTERScONE SIXTEENTHdEIGHTHcTHREE SIXTEENTHS
0B82aTAMIL SIGN ANUSVARAcVISARGA
0B85bLETTER AcAAcIcIIcUcUU
0B8EcEcEEcAI
0B92cOcOOcAUcKA
0B99cNGAcCA
0B9CcJA
0B9EcNYAcTTA
0BA3cNNAcTA
0BA8cNAcNNNAcPA
0BAEcMAcYAcRAcRRAcLAcLLAcLLLAcVAcSHAcSSAcSAcHA
0BBEbVOWEL SIGN AAdIdIIdUdUU
0BC6dEdEEdAI
0BCAdOdOOdAUbSIGN VIRAMA
0BD0bOM
0BD7bAU LENGTH MARK
0BE6bDIGIT ZEROcONEcTWOcTHREEcFOURcFIVEcSIXcSEVENcEIGHTcNINEbNUMBER TENcONE HUNDREDdTHOUSAND
bDAY SIGNbMONTH.bYEAR.bDEBIT.bCREDIT.bAS ABOVE.bRUPEE.bNUMBER.
0C00aTELUGU SIGN COMBINING CANDRABINDU ABOVEcCANDRABINDUcANUSVARAcVISARGAcCOMBINING ANUSVARA ABOVE
bLETTER AcAAcIcIIcUcUUcVOCALIC RdL
0C0EcEcEEcAI
0C12cOcOOcAUcKAcKHAcGAcGHAcNGAcCAcCHAcJAcJHAcNYAcTTAcTTHAcDDAcDDHAcNNAcTAcTHAcDAcDHAcNA
0C2AcPAcPHAcBAcBHAcMAcYAcRAcRRAcLAcLLAcLLLAcVAcSHAcSSAcSAcHA
0C3CbSIGN NUKTAcAVAGRAHAbVOWEL SIGN AAdIdIIdUdUUdVOCALIC ReRR
0C46dEdEEdAI
0C4AdOdOOdAUbSIGN VIRAMA
0C55bLENGTH MARKbAI..
0C58bLETTER TSAcDZAcRRRA
0C5DcNAKAARA POLLU
0C60cVOCALIC RRdLLbVOWEL SIGN VOCALIC LeLL
0C66bDIGIT ZEROcONEcTWOcTHREEcFOURcFIVEcSIXcSEVENcEIGHTcNINE
0C77bSIGN SIDDHAMbFRACTION DIGIT ZERO FOR ODD POWERS OF FOURdONE.....dTWO.....dTHREE.....
dONE FOR EVEN...dTWO.....dTHREE.....bSIGN TUUMUaKANNADA SIGN SPACING CANDRABINDUc.cANUSVARA
cVISARGAcSIDDHAMbLETTER AcAAcIcIIcUcUUcVOCALIC RdL
0C8EcEcEEcAI
0C92cOcOOcAUcKAcKHAcGAcGHAcNGAcCAcCHAcJAcJHAcNYAcTTAcTTHAcDDAcDDHAcNNAcTAcTHAcDAcDHAcNA
0CAAcPAcPHAcBAcBHAcMAcYAcRAcRRAcLAcLLA
0CB5cVAcSHAcSSAcSAcHA
0CBCbSIGN NUKTAcAVAGRAHAbVOWEL SIGN AAdIdIIdUdUUdVOCALIC ReRR
0CC6dEdEEdAI
0CCAdOdOOdAUbSIGN VIRAMA
0CD5bLENGTH MARKbAI..
0CDDbLETTER NAKAARA POLLUcFA
0CE0cVOCALIC RRdLLbVOWEL SIGN VOCALIC LeLL
0CE6bDIGIT ZEROcONEcTWOcTHREEcFOURcFIVEcSIXcSEVENcEIGHTcNINE
0CF1bSIGN JIHVAMULIYAcUPADHMANIYA
0D00aMALAYALAM SIGN COMBINING ANUSVARA ABOVEcCANDRABINDUcANUSVARAcVISARGAbLETTER VEDIC ANUSVARAcA
cAAcIcIIcUcUUcVOCALIC RdL
0D0EcEcEEcAI
0D12cOcOOcAUcKAcKHAcGAcGHAcNGAcCAcCHAcJAcJHAcNYAcTTAcTTHAcDDAcDDHAcNNAcTAcTHAcDAcDHAcNAcNNNAcPA
cPHAcBAcBHAcMAcYAcRAcRRAcLAcLLAcLLLAcVAcSHAcSSAcSAcHAcTTTAbSIGN VERTICAL BAR VIRAMAcCIRCULAR.
cAVAGRAHAbVOWEL SIGN AAdIdIIdUdUUdVOCALIC ReRR
0D46dEdEEdAI
0D4AdOdOOdAUbSIGN VIRAMAbLETTER DOT REPHbSIGN PARA
0D54bLETTER CHILLU MdYdLLLbAU LENGTH MARKbFRACTION ONE ONE-HUNDRED-AND-SIXTIETHdFORTIETH
cTHREE EIGHTIETHScONE TWENTIETHdTENTHcTHREE TWENTIETHScONE FIFTHbLETTER ARCHAIC IIcVOCALIC RRdLL
bVOWEL SIGN VOCALIC LeLL
0D66bDIGIT ZEROcONEcTWOcTHREEcFOURcFIVEcSIXcSEVENcEIGHTcNINEbNUMBER TENcONE HUNDREDdTHOUSAND
bFRACTION ONE QUARTERdHALFcTHREE QUARTERScONE SIXTEENTHdEIGHTHcTHREE SIXTEENTHSbDATE MARK
bLETTER CHILLU NNdNdRRdLdLLdK
0D81aSINHALA SIGN CANDRABINDUcANUSVARAYAcVISARGAYA
0D85bLETTER AYANNAcAAYANNAcAEYANNAcAEEYANNAcIYANNAcIIYANNAcUYANNAcUUYANNAcIRUYANNAcIRUUYANNA
cILUYANNAcILUUYANNAcEYANNAcEEYANNAcAIYANNAcOYANNAcOOYANNAcAUYANNA
0D9AcALPAPRAANA KAYANNAcMAHAAPRAANA.cALPAPRAANA GAYANNAcMAHAAPRAANA.cKANTAJA NAASIKYAYA
cSANYAKA GAYANNAcALPAPRAANA CAYANNAcMAHAAPRAANA.cALPAPRAANA JAYANNAcMAHAAPRAANA.
cTAALUJA NAASIKYAYAdSANYOOGA NAAKSIKYAYAcSANYAKA JAYANNAcALPAPRAANA TTAYANNAcMAHAAPRAANA.
cALPAPRAANA DDAYANNAcMAHAAPRAANA.cMUURDHAJA NAYANNAcSANYAKA DDAYANNAcALPAPRAANA TAYANNA
cMAHAAPRAANA.cALPAPRAANA DAYANNAcMAHAAPRAANA.cDANTAJA NAYANNA
0DB3cSANYAKA DAYANNAcALPAPRAANA PAYANNAcMAHAAPRAANA.cALPAPRAANA BAYANNAcMAHAAPRAANA.cMAYANNA
cAMBA BAYANNAcYAYANNAcRAYANNA
0DBDcDANTAJA LAYANNA
0DC0cVAYANNAcTAALUJA SAYANNAcMUURDHAJA.cDANTAJA.cHAYANNAcMUURDHAJA LAYANNAcFAYANNA
0DCAbSIGN AL-LAKUNA
0DCFbVOWEL SIGN AELA-PILLAdKETTI AEDA-PILLAdDIGA.dKETTI IS-PILLAdDIGA.dKETTI PAA-PILLA
0DD6dDIGA.
0DD8dGAETTA-PILLAdKOMBUVAdDIGA.dKOMBU DEKAdKOMBUVA HAA AELA-PILLAfDIGA.fGAYANUKITTAd.
0DE6bLITH DIGIT ZEROdONEdTWOdTHREEdFOURdFIVEdSIXdSEVENdEIGHTdNINE
0DF2bVOWEL SIGN DIGA GAETTA-PILLAeGAYANUKITTAbPUNCTUATION KUNDDALIYA
0E01aTHAI CHARACTER KO KAIcKHO KHAIdKHUATdKHWAIdKHONdRAKHANGcNGO NGUcCHO CHANdCHINGdCHANGcSO SO
cCHO CHOEcYO YINGcDO CHADAcTO PATAKcTHO THANdNANGMONTHOdPHUTHAOcNO NENcDO DEKcTO TAOcTHO THUNG
dTHAHANdTHONGcNO NUcBO BAIMAIcPO PLAcPHO PHUNGcFO FAcPHO PHANcFO FANcPHO SAMPHAOcMO MAcYO YAK
cRO RUAcRUcLO LINGcLUcWO WAENcSO SALAdRUSIdSUAcHO HIPcLO CHULAcO ANGcHO NOKHUKcPAIYANNOIcSARA A
cMAI HAN-AKATcSARA AAdAMdIdIIdUEdUEEdUdUUcPHINTHU
0E3FbCURRENCY SYMBOL BAHTbCHARACTER SARA EdAEdOdAI MAIMUANeMAIMALAIcLAKKHANGYAOcMAIYAMOKcMAITAIKHU
cMAI EKdTHOdTRIdCHATTAWAcTHANTHAKHATcNIKHAHITcYAMAKKANcFONGMANbDIGIT ZEROcONEcTWOcTHREEcFOURcFIVE
cSIXcSEVENcEIGHTcNINEbCHARACTER ANGKHANKHUcKHOMUT
0E81aLAO LETTER KOcKHO SUNG
0E84dTAM
0E86cPALI GHAcNGOcCOcPALI CHAcSO TAM
0E8CcPALI JHAcNYOcPALI NYAdTTAdTTHAdDDAdDDHAdNNAcDOcTOcTHO SUNGdTAMcPALI DHAcNOcBOcPOcPHO SUNG
cFO TAMcPHO.cFO SUNGcPALI BHAcMOcYOcLO LING
0EA5dLOOT
0EA7cWOcSANSKRIT SHAdSSAcSO SUNGcHO.cPALI LLAcOcHO TAMbELLIPSISbVOWEL SIGN AdMAI KANdAAdAMdIdIIdY
dYYdUdUUbSIGN PALI VIRAMAbVOWEL SIGN MAI KONbSEMIVOWEL SIGN LOdNYO
0EC0bVOWEL SIGN EdEIdOdAYdAI
0EC6bKO LA
0EC8bTONE MAI EKdTHOdTIdCATAWAbCANCELLATION MARKbNIGGAHITA
0ED0bDIGIT ZEROcONEcTWOcTHREEcFOURcFIVEcSIXcSEVENcEIGHTcNINE
0EDCbHO NOcMObLETTER KHMU GOdNYO
0F00aTIBETAN SYLLABLE OMbMARK GTER YIG MGO TRUNCATED Af-UM RNAM BCAD MAgGTER TSHEG.
cINITIAL YIG MGO MDUN.cCLOSING YIG MGO SGAB.cCARET YIG MGO PHUR SHAD.cYIG MGO TSHEG..cSBRUL SHAD
cBSKUR YIG MGOcBKA- SHOG..cINTERSYLLABIC TSHEGcDELIMITER TSHEG BSTARcSHADcNYIS.cTSHEG.cNYIS..
cRIN CHEN SPUNGS.cRGYA GRAM.cCARET -DZUD RTAGS ME LONG CANcGTER TSHEGbLOGOTYPE SIGN CHAD RTAGS
dLHAG.bASTROLOGICAL SIGN SGRA GCAN -CHAR.d-KHYUD PAdSDONG TSHUGSbSIGN RDEL DKAR GCIGeGNYISeGSUM
dNAG GCIGeGNYISdDKAR RDEL NAGbDIGIT ZEROcONEcTWOcTHREEcFOURcFIVEcSIXcSEVENcEIGHTcNINEcHALF ONEdTWO
dTHREEdFOURdFIVEdSIXdSEVENdEIGHTdNINEdZERObMARK BSDUS RTAGScNGAS BZUNG NYI ZLA
cCARET -DZUD RTAGS BZHI MIG CANcNGAS BZUNG SGOR RTAGScCHE MGOcTSA -PHRUcGUG RTAGS GYONeGYAS
cANG KHANG GYONeGYASbSIGN YAR TSHEScMAR.bLETTER KAcKHAcGAcGHAcNGAcCAcCHAcJA
0F49cNYAcTTAcTTHAcDDAcDDHAcNNAcTAcTHAcDAcDHAcNAcPAcPHAcBAcBHAcMAcTSAcTSHAcDZAcDZHAcWAcZHAcZAc-AcYA
cRAcLAcSHAcSSAcSAcHAcAcKSSAcFIXED-FORM RAcKKAcRRA
0F71bVOWEL SIGN AAdIdIIdUdUUdVOCALIC ReRReLeLLdEdEEdOdOObSIGN RJES SU NGA ROcRNAM BCAD
bVOWEL SIGN REVERSED IeIIbSIGN NYI ZLA NAA DAcSNA LDANbMARK HALANTAcPALUTAbSIGN LCI RTAGScYANG.
cLCE TSA CANcMCHU.cGRU CAN RGYINGSdMED.cINVERTED MCHU CANbSUBJOINED SIGN LCE TSA.dMCHU.dINVERTED..
cLETTER KAdKHAdGAdGHAdNGAdCAdCHAdJA
0F99dNYAdTTAdTTHAdDDAdDDHAdNNAdTAdTHAdDAdDHAdNAdPAdPHAdBAdBHAdMAdTSAdTSHAdDZAdDZHAdWAdZHAdZAd-AdYA
dRAdLAdSHAdSSAdSAdHAdAdKSSAdFIXED-FORM WAeYAeRA
0FBEbKU RU KHAeBZHI MIG CANbCANTILLATION SIGN HEAVY BEATdLIGHT.dCANG TE-UdSBUB -CHAL
bSYMBOL DRIL BUcRDO RJEcPADMA GDANcRDO RJE RGYA GRAMcPHUR PAcNOR BUeNYIS -KHYILeGSUM.eBZHI.
0FCEbSIGN RDEL NAG RDEL DKAReGSUMbMARK BSKA- SHOG GI MGO RGYANcMNYAM YIG...cNYIS TSHEG
cINITIAL BRDA RNYING YIG MGO MDUN MAcCLOSING BRDA RNYING YIG MGO SGAB.aRIGHT-FACING SVASTI SIGN
aLEFT-FACING..aRIGHT-FACING SVASTI SIGN WITH DOTSaLEFT-FACING....aTIBETAN MARK LEADING MCHAN RTAGS
cTRAILING..
1000aMYANMAR LETTER KAcKHAcGAcGHAcNGAcCAcCHAcJAcJHAcNYAcNNYAcTTAcTTHAcDDAcDDHAcNNAcTAcTHAcDAcDHA
cNAcPAcPHAcBAcBHAcMAcYAcRAcLAcWAcSAcHAcLLAcAcSHAN.cIcIIcUcUUcEcMON.cOcAUbVOWEL SIGN TALL AAd.dIdII
dUdUUdEdAIdMON IIeOdE ABOVEbSIGN ANUSVARAcDOT BELOWcVISARGAcVIRAMAcASATbCONSONANT SIGN MEDIAL YA
eRAeWAeHAbLETTER GREAT SAbDIGIT ZEROcONEcTWOcTHREEcFOURcFIVEcSIXcSEVENcEIGHTcNINE
bSIGN LITTLE SECTIONc.bSYMBOL LOCATIVEcCOMPLETEDcAFOREMENTIONEDcGENITIVEbLETTER SHAcSSAcVOCALIC R
dRRdLdLLbVOWEL SIGN VOCALIC ReRReLeLLbLETTER MON NGAdJHAdBBAdBBEbCONSONANT SIGN MON MEDIAL NAfMA
fLAbLETTER SGAW KAREN SHAbVOWEL SIGN SGAW KAREN EUbTONE MARK SGAW KAREN HATHIfKE PHO
bLETTER WESTERN PWO KAREN THAfPWAbVOWEL SIGN WESTERN PWO KAREN EUgUEbSIGN WESTERN PWO KAREN TONE-1
fTONE-2fTONE-3fTONE-4fTONE-5bLETTER EASTERN PWO KAREN NNAfYWAfGHWAbVOWEL SIGN GEBA KAREN I
dKAYAH OEeUeEEbLETTER SHAN KAdKHAdGAdCAdZAdNYAdDAdNAdPHAdFAdBAdTHAdHA
bCONSONANT SIGN SHAN MEDIAL WAbVOWEL SIGN SHAN AAeEfABOVEeFINAL YbSIGN SHAN TONE-2dTONE-3dTONE-5
dTONE-6dCOUNCIL TONE-2eTONE-3eEMPHATIC TONEbLETTER RUMAI PALAUNG FAbSIGN RUMAI PALAUNG TONE-5
bSHAN DIGIT ZEROdONEdTWOdTHREEdFOURdFIVEdSIXdSEVENdEIGHTdNINEbSIGN KHAMTI TONE-1dTONE-3
bVOWEL SIGN AITON AeAIbSYMBOL SHAN ONEdEXCLAMATIONaGEORGIAN CAPITAL LETTER ANdBANdGANdDONdENdVIN
dZENdTANdINdKANdLASdMANdNARdONdPARdZHARdRAEdSANdTARdUNdPHARdKHARdGHANdQARdSHINdCHINdCANdJILdCIL
dCHARdXANdJHANdHAEdHEdHIEdWEdHARdHOE
10C7dYN
10CDdAEN
10D0bLETTER ANcBANcGANcDONcENcVINcZENcTANcINcKANcLAScMANcNARcONcPARcZHARcRAEcSANcTARcUNcPHARcKHAR
cGHANcQARcSHINcCHINcCANcJILcCILcCHARcXANcJHANcHAEcHEcHIEcWEcHARcHOEcFIcYNcELIFIcTURNED GANcAIN
bPARAGRAPH SEPARATORaMODIFIER LETTER GEORGIAN NARaGEORGIAN LETTER AENcHARD SIGNcLABIAL.
aHANGUL CHOSEONG KIYEOKcSSANGKIYEOKcNIEUNcTIKEUTcSSANGTIKEUTcRIEULcMIEUMcPIEUPcSSANGPIEUPcSIOS
cSSANGSIOScIEUNGcCIEUCcSSANGCIEUCcCHIEUCHcKHIEUKHcTHIEUTHcPHIEUPHcHIEUHcNIEUN-KIYEOKcSSANGNIEUN
cNIEUN-TIKEUTcNIEUN-PIEUPcTIKEUT-KIYEOKcRIEUL-NIEUNcSSANGRIEULcRIEUL-HIEUHcKAPYEOUNRIEUL
cMIEUM-PIEUPcKAPYEOUNMIEUMcPIEUP-KIYEOKcPIEUP-NIEUNcPIEUP-TIKEUTcPIEUP-SIOScPIEUP-SIOS-KIYEOK
cPIEUP-SIOS-TIKEUTcPIEUP-SIOS-PIEUPcPIEUP-SSANGSIOScPIEUP-SIOS-CIEUCcPIEUP-CIEUCcPIEUP-CHIEUCH
cPIEUP-THIEUTHcPIEUP-PHIEUPHcKAPYEOUNPIEUPcKAPYEOUNSSANGPIEUPcSIOS-KIYEOKcSIOS-NIEUNcSIOS-TIKEUT
cSIOS-RIEULcSIOS-MIEUMcSIOS-PIEUPcSIOS-PIEUP-KIYEOKcSIOS-SSANGSIOScSIOS-IEUNGcSIOS-CIEUC
cSIOS-CHIEUCHcSIOS-KHIEUKHcSIOS-THIEUTHcSIOS-PHIEUPHcSIOS-HIEUHcCHITUEUMSIOScCHITUEUMSSANGSIOS
cCEONGCHIEUMSIOScCEONGCHIEUMSSANGSIOScPANSIOScIEUNG-KIYEOKcIEUNG-TIKEUTcIEUNG-MIEUMcIEUNG-PIEUP
cIEUNG-SIOScIEUNG-PANSIOScSSANGIEUNGcIEUNG-CIEUCcIEUNG-CHIEUCHcIEUNG-THIEUTHcIEUNG-PHIEUPH
cYESIEUNGcCIEUC-IEUNGcCHITUEUMCIEUCcCHITUEUMSSANGCIEUCcCEONGCHIEUMCIEUCcCEONGCHIEUMSSANGCIEUC
cCHIEUCH-KHIEUKHcCHIEUCH-HIEUHcCHITUEUMCHIEUCHcCEONGCHIEUMCHIEUCHcPHIEUPH-PIEUPcKAPYEOUNPHIEUPH
cSSANGHIEUHcYEORINHIEUHcKIYEOK-TIKEUTcNIEUN-SIOScNIEUN-CIEUCcNIEUN-HIEUHcTIKEUT-RIEULcFILLER
bJUNGSEONG.cAcAEcYAcYAEcEOcEcYEOcYEcOcWAcWAEcOEcYOcUcWEOcWEcWIcYUcEUcYIcIcA-OcA-UcYA-OcYA-YOcEO-O
cEO-UcEO-EUcYEO-OcYEO-UcO-EOcO-EcO-YEcO-OcO-UcYO-YAcYO-YAEcYO-YEOcYO-OcYO-IcU-AcU-AEcU-EO-EUcU-YE
cU-UcYU-AcYU-EOcYU-EcYU-YEOcYU-YEcYU-UcYU-IcEU-UcEU-EUcYI-UcI-AcI-YAcI-OcI-UcI-EUcI-ARAEAcARAEA
cARAEA-EOcARAEA-UcARAEA-IcSSANGARAEAcA-EUcYA-UcYEO-YAcO-YAcO-YAEbJONGSEONG KIYEOKcSSANGKIYEOK
cKIYEOK-SIOScNIEUNcNIEUN-CIEUCcNIEUN-HIEUHcTIKEUTcRIEULcRIEUL-KIYEOKcRIEUL-MIEUMcRIEUL-PIEUP
cRIEUL-SIOScRIEUL-THIEUTHcRIEUL-PHIEUPHcRIEUL-HIEUHcMIEUMcPIEUPcPIEUP-SIOScSIOScSSANGSIOScIEUNG
cCIEUCcCHIEUCHcKHIEUKHcTHIEUTHcPHIEUPHcHIEUHcKIYEOK-RIEULcKIYEOK-SIOS-KIYEOKcNIEUN-KIYEOK
cNIEUN-TIKEUTcNIEUN-SIOScNIEUN-PANSIOScNIEUN-THIEUTHcTIKEUT-KIYEOKcTIKEUT-RIEULcRIEUL-KIYEOK-SIOS
cRIEUL-NIEUNcRIEUL-TIKEUTcRIEUL-TIKEUT-HIEUHcSSANGRIEULcRIEUL-MIEUM-KIYEOKcRIEUL-MIEUM-SIOS
cRIEUL-PIEUP-SIOScRIEUL-PIEUP-HIEUHcRIEUL-KAPYEOUNPIEUPcRIEUL-SSANGSIOScRIEUL-PANSIOS
cRIEUL-KHIEUKHcRIEUL-YEORINHIEUHcMIEUM-KIYEOKcMIEUM-RIEULcMIEUM-PIEUPcMIEUM-SIOScMIEUM-SSANGSIOS
cMIEUM-PANSIOScMIEUM-CHIEUCHcMIEUM-HIEUHcKAPYEOUNMIEUMcPIEUP-RIEULcPIEUP-PHIEUPHcPIEUP-HIEUH
cKAPYEOUNPIEUPcSIOS-KIYEOKcSIOS-TIKEUTcSIOS-RIEULcSIOS-PIEUPcPANSIOScIEUNG-KIYEOK
cIEUNG-SSANGKIYEOKcSSANGIEUNGcIEUNG-KHIEUKHcYESIEUNGcYESIEUNG-SIOScYESIEUNG-PANSIOScPHIEUPH-PIEUP
cKAPYEOUNPHIEUPHcHIEUH-NIEUNcHIEUH-RIEULcHIEUH-MIEUMcHIEUH-PIEUPcYEORINHIEUHcKIYEOK-NIEUN
cKIYEOK-PIEUPcKIYEOK-CHIEUCHcKIYEOK-KHIEUKHcKIYEOK-HIEUHcSSANGNIEUNaETHIOPIC SYLLABLE HAcHUcHIcHAA
cHEEcHEcHOcHOAcLAcLUcLIcLAAcLEEcLEcLOcLWAcHHAcHHUcHHIcHHAAcHHEEcHHEcHHOcHHWAcMAcMUcMIcMAAcMEEcME
cMOcMWAcSZAcSZUcSZIcSZAAcSZEEcSZEcSZOcSZWAcRAcRUcRIcRAAcREEcREcROcRWAcSAcSUcSIcSAAcSEEcSEcSOcSWA
cSHAcSHUcSHIcSHAAcSHEEcSHEcSHOcSHWAcQAcQUcQIcQAAcQEEcQEcQOcQOAcQWA
124AcQWIcQWAAcQWEEcQWE
1250cQHAcQHUcQHIcQHAAcQHEEcQHEcQHO
1258cQHWA
125AcQHWIcQHWAAcQHWEEcQHWE
1260cBAcBUcBIcBAAcBEEcBEcBOcBWAcVAcVUcVIcVAAcVEEcVEcVOcVWAcTAcTUcTIcTAAcTEEcTEcTOcTWAcCAcCUcCIcCAA
cCEEcCEcCOcCWAcXAcXUcXIcXAAcXEEcXEcXOcXOAcXWA
128AcXWIcXWAAcXWEEcXWE
1290cNAcNUcNIcNAAcNEEcNEcNOcNWAcNYAcNYUcNYIcNYAAcNYEEcNYEcNYOcNYWAcGLOTTAL AdUdIdAAdEEdEdOdWAcKA
cKUcKIcKAAcKEEcKEcKOcKOAcKWA
12B2cKWIcKWAAcKWEEcKWE
12B8cKXAcKXUcKXIcKXAAcKXEEcKXEcKXO
12C0cKXWA
12C2cKXWIcKXWAAcKXWEEcKXWE
12C8cWAcWUcWIcWAAcWEEcWEcWOcWOAcPHARYNGEAL AdUdIdAAdEEdEdO
12D8cZAcZUcZIcZAAcZEEcZEcZOcZWAcZHAcZHUcZHIcZHAAcZHEEcZHEcZHOcZHWAcYAcYUcYIcYAAcYEEcYEcYOcYOAcDA
cDUcDIcDAAcDEEcDEcDOcDWAcDDAcDDUcDDIcDDAAcDDEEcDDEcDDOcDDWAcJAcJUcJIcJAAcJEEcJEcJOcJWAcGAcGUcGI
cGAAcGEEcGEcGOcGOAcGWA
1312cGWIcGWAAcGWEEcGWE
1318cGGAcGGUcGGIcGGAAcGGEEcGGEcGGOcGGWAAcTHAcTHUcTHIcTHAAcTHEEcTHEcTHOcTHWAcCHAcCHUcCHIcCHAAcCHEE
cCHEcCHOcCHWAcPHAcPHUcPHIcPHAAcPHEEcPHEcPHOcPHWAcTSAcTSUcTSIcTSAAcTSEEcTSEcTSOcTSWAcTZAcTZUcTZI
cTZAAcTZEEcTZEcTZOcTZOAcFAcFUcFIcFAAcFEEcFEcFOcFWAcPAcPUcPIcPAAcPEEcPEcPOcPWAcRYAcMYAcFYA
135DbCOMBINING GEMINATION AND VOWEL LENGTH MARKc...cGEMINATION.bSECTION.bWORDSPACEbFULL STOPbCOMMA
bSEMICOLONbCOLONbPREFACE.bQUESTION MARKbPARAGRAPH SEPARATORbDIGIT ONEcTWOcTHREEcFOURcFIVEcSIX
cSEVENcEIGHTcNINEbNUMBER TENcTWENTYcTHIRTYcFORTYcFIFTYcSIXTYcSEVENTYcEIGHTYcNINETYcHUNDRED
cTEN THOUSAND
1380bSYLLABLE SEBATBEIT MWAcMWIcMWEEcMWEcSEBATBEIT BWAcBWIcBWEEcBWEcSEBATBEIT FWAcFWIcFWEEcFWE
cSEBATBEIT PWAcPWIcPWEEcPWEbTONAL MARK YIZETdDERETdRIKRIKdSHORT.dDIFATdKENATdCHIRETdHIDET
dDERET-HIDETdKURT
13A0aCHEROKEE LETTER AcEcIcOcUcVcGAcKAcGEcGIcGOcGUcGVcHAcHEcHIcHOcHUcHVcLAcLEcLIcLOcLUcLVcMAcMEcMI
cMOcMUcNAcHNAcNAHcNEcNIcNOcNUcNVcQUAcQUEcQUIcQUOcQUUcQUVcSAcScSEcSIcSOcSUcSVcDAcTAcDEcTEcDIcTIcDO
cDUcDVcDLAcTLAcTLEcTLIcTLOcTLUcTLVcTSAcTSEcTSIcTSOcTSUcTSVcWAcWEcWIcWOcWUcWVcYAcYEcYIcYOcYUcYVcMV
13F8bSMALL LETTER YEdYIdYOdYUdYVdMV
1400aCANADIAN SYLLABICS HYPHENcEcAAIcIcIIcOcOOcY-CREE.cCARRIER EEdIcAcAAcWEcWEST-CREE.cWI
cWEST-CREE.cWIIcWEST-CREE.cWOcWEST-CREE.cWOOcWEST-CREE.cNASKAPI.cWAcWEST-CREE.cWAAcWEST-CREE.
cNASKAPI.cAIcY-CREE WcGLOTTAL STOPcFINAL ACUTEdGRAVEdBOTTOM HALF RINGdTOP..dRIGHT..d.dDOUBLE ACUTE
eSHORT VERTICAL STROKESdMIDDLE DOTdSHORT HORIZONTAL STROKEdPLUSdDOWN TACKcENcINcONcANcPEcPAAIcPI
cPIIcPOcPOOcY-CREE.cCARRIER HEEdHIcPAcPAAcPWEcWEST-CREE.cPWIcWEST-CREE.cPWIIcWEST-CREE.cPWO
cWEST-CREE.cPWOOcWEST-CREE.cPWAcWEST-CREE.cPWAAcWEST-CREE.cY-CREE.cPcWEST-CREE.cCARRIER HcTEcTAAI
cTIcTIIcTOcTOOcY-CREE.cCARRIER DEEdDIcTAcTAAcTWEcWEST-CREE.cTWIcWEST-CREE.cTWIIcWEST-CREE.cTWO
cWEST-CREE.cTWOOcWEST-CREE.cTWAcWEST-CREE.cTWAAcWEST-CREE.cNASKAPI.cTcTTEcTTIcTTOcTTAcKEcKAAIcKI
cKIIcKOcKOOcY-CREE.cKAcKAAcKWEcWEST-CREE.cKWIcWEST-CREE.cKWIIcWEST-CREE.cKWOcWEST-CREE.cKWOO
cWEST-CREE.cKWAcWEST-CREE.cKWAAcWEST-CREE.cNASKAPI.cKcKWcSOUTH-SLAVEY KEHdKIHdKOHdKAHcCEcCAAIcCI
cCIIcCOcCOOcY-CREE.cCAcCAAcCWEcWEST-CREE.cCWIcWEST-CREE.cCWIIcWEST-CREE.cCWOcWEST-CREE.cCWOO
cWEST-CREE.cCWAcWEST-CREE.cCWAAcWEST-CREE.cNASKAPI.cCcSAYISI THcMEcMAAIcMIcMIIcMOcMOOcY-CREE.cMA
cMAAcMWEcWEST-CREE.cMWIcWEST-CREE.cMWIIcWEST-CREE.cMWOcWEST-CREE.cMWOOcWEST-CREE.cMWAcWEST-CREE.
cMWAAcWEST-CREE.cNASKAPI.cMcWEST-CREE.cMHcATHAPASCAN McSAYISI.cNEcNAAIcNIcNIIcNOcNOOcY-CREE.cNA
cNAAcNWEcWEST-CREE.cNWAcWEST-CREE.cNWAAcWEST-CREE.cNASKAPI.cNcCARRIER NGcNHcLEcLAAIcLIcLIIcLOcLOO
cY-CREE.cLAcLAAcLWEcWEST-CREE.cLWIcWEST-CREE.cLWIIcWEST-CREE.cLWOcWEST-CREE.cLWOOcWEST-CREE.cLWA
cWEST-CREE.cLWAAcWEST-CREE.cLcWEST-CREE.cMEDIAL.cSEcSAAIcSIcSIIcSOcSOOcY-CREE.cSAcSAAcSWE
cWEST-CREE.cSWIcWEST-CREE.cSWIIcWEST-CREE.cSWOcWEST-CREE.cSWOOcWEST-CREE.cSWAcWEST-CREE.cSWAA
cWEST-CREE.cNASKAPI.cScATHAPASCAN.cSWcBLACKFOOT ScMOOSE-CREE SKcNASKAPI SKWdS-WdSPWAdSTWAdSKWA
dSCWAcSHEcSHIcSHIIcSHOcSHOOcSHAcSHAAcSHWEcWEST-CREE.cSHWIcWEST-CREE.cSHWIIcWEST-CREE.cSHWO
cWEST-CREE.cSHWOOcWEST-CREE.cSHWAcWEST-CREE.cSHWAAcWEST-CREE.cSHcYEcYAAIcYIcYIIcYOcYOOcY-CREE.cYA
cYAAcYWEcWEST-CREE.cYWIcWEST-CREE.cYWIIcWEST-CREE.cYWOcWEST-CREE.cYWOOcWEST-CREE.cYWAcWEST-CREE.
cYWAAcWEST-CREE.cNASKAPI.cYcBIBLE-CREE.cWEST-CREE.cSAYISI YIcREcR-CREE.cWEST-CREE LEcRAAIcRIcRII
cROcROOcWEST-CREE LOcRAcRAAcWEST-CREE LAcRWAAcWEST-CREE.cRcWEST-CREE.cMEDIAL.cFEcFAAIcFIcFIIcFO
cFOOcFAcFAAcFWAAcWEST-CREE.cFcTHEcN-CREE.cTHIcN-CREE.cTHIIcN-CREE.cTHOcTHOOcTHAcTHAAcTHWAA
cWEST-CREE.cTHcTTHEcTTHIcTTHOcTTHAcTTHcTYEcTYIcTYOcTYAcNUNAVIK HEdHIdHIIdHOdHOOdHAdHAAdHcNUNAVUT.
cHKcQAAIcQIcQIIcQOcQOOcQAcQAAcQcTLHEcTLHIcTLHOcTLHAcWEST-CREE REdRIdROdRAcNGAAIcNGIcNGIIcNGOcNGOO
cNGAcNGAAcNGcNNGcSAYISI SHEdSHIdSHOdSHAcWOODS-CREE THEdTHIdTHOdTHAdTHcLHIcLHIIcLHOcLHOOcLHAcLHAA
cLHcTH-CREE THEdTHIdTHIIdTHOdTHOOdTHAdTHAAdTHcAIVILIK BcBLACKFOOT EdIdOdAdWEdWIdWOdWAdNEdNIdNOdNA
dKEdKIdKOdKAcSAYISI HEdHIdHOdHAcCARRIER GHUdGHOdGHEdGHEEdGHIdGHAdRUdROdREdREEdRIdRAdWUdWOdWEdWEE
dWIdWAdHWUdHWOdHWEdHWEEdHWIdHWAdTHUdTHOdTHEdTHEEdTHIdTHAdTTUdTTOdTTEdTTEEdTTIdTTAdPUdPOdPEdPEEdPI
dPAdPdGUdGOdGEdGEEdGIdGAdKHUdKHOdKHEdKHEEdKHIdKHAdKKUdKKOdKKEdKKEEdKKIdKKAdKKdNUdNOdNEdNEEdNIdNA
dMUdMOdMEdMEEdMIdMAdYUdYOdYEdYEEdYIdYAdJUcSAYISI.cCARRIER JOdJEdJEEdJIcSAYISI.cCARRIER JAdJJUdJJO
dJJEdJJEEdJJIdJJAdLUdLOdLEdLEEdLIdLAdDLUdDLOdDLEdDLEEdDLIdDLAdLHUdLHOdLHEdLHEEdLHIdLHAdTLHUdTLHO
dTLHEdTLHEEdTLHIdTLHAdTLUdTLOdTLEdTLEEdTLIdTLAdZUdZOdZEdZEEdZIdZAdZdINITIAL.dDZUdDZOdDZEdDZEEdDZI
dDZAdSUdSOdSEdSEEdSIdSAdSHUdSHOdSHEdSHEEdSHIdSHAdSHdTSUdTSOdTSEdTSEEdTSIdTSAdCHUdCHOdCHEdCHEEdCHI
dCHAdTTSUdTTSOdTTSEdTTSEEdTTSIdTTSAcCHI SIGNcFULL STOPcQAIcNGAIcNNGIcNNGIIcNNGOcNNGOOcNNGAcNNGAA
cWOODS-CREE THWEEdTHWIdTHWIIdTHWOdTHWOOdTHWAdTHWAAdFINAL THcBLACKFOOT WaOGHAM SPACE MARK
bLETTER BEITHcLUIScFEARNcSAILcNIONcUATHcDAIRcTINNEcCOLLcCEIRTcMUINcGORTcNGEADALcSTRAIFcRUIScAILM
cONNcURcEADHADHcIODHADHcEABHADHcORcUILLEANNcIFINcEAMHANCHOLLcPEITHbFEATHER MARKbREVERSED..
16A0aRUNIC LETTER FEHU FEOH FE FcVcURUZ UR UcYRcYcWcTHURISAZ THURS THORNcETHcANSUZ AcOS OcAC A
cAESCcLONG-BRANCH-OSS OcSHORT-TWIG-OSS.c.cOEcONcRAIDO RAD REID RcKAUNAcCENcKAUN KcGcENG
cGEBO GYFU GcGARcWUNJO WYNN WcHAGLAZ HcHAEGL.cLONG-BRANCH-HAGALL.cSHORT-TWIG-HAGALL.
cNAUDIZ NYD NAUD NcSHORT-TWIG-NAUD.cDOTTED-NcISAZ IS ISS IcEcJERAN JcGERcLONG-BRANCH-AR AE
cSHORT-TWIG-AR AcIWAZ EOHcPERTHO PEORTH PcALGIZ EOLHXcSOWILO ScSIGEL LONG-BRANCH-SOL.
cSHORT-TWIG-SOL.cCcZcTIWAZ TIR TYR TcSHORT-TWIG-TYR.cDcBERKANAN BEORC BJARKAN B
cSHORT-TWIG-BJARKAN.cDOTTED-PcOPEN-PcEHWAZ EH EcMANNAZ MAN McLONG-BRANCH-MADR.cSHORT-TWIG-MADR.
cLAUKAZ LAGU LOGR LcDOTTED-LcINGWAZcINGcDAGAZ DAEG DcOTHALAN ETHEL OcEARcIORcCWEORTHcCALCcCEALC
cSTANcLONG-BRANCH-YRcSHORT-TWIG-YRcICELANDIC-YRcQcXbSINGLE PUNCTUATIONbMULTIPLE.bCROSS.
bARLAUG SYMBOLbTVIMADUR.bBELGTHOR.bLETTER KcSHcOOcFRANKS CASKET OSeISeEHeACeAESC
1700aTAGALOG LETTER AcIcUcKAcGAcNGAcTAcDAcNAcPAcBAcMAcYAcRAcLAcWAcSAcHAbVOWEL SIGN IdUbSIGN VIRAMA
cPAMUDPOD
171FbLETTER ARCHAIC RAaHANUNOO LETTER AcIcUcKAcGAcNGAcTAcDAcNAcPAcBAcMAcYAcRAcLAcWAcSAcHA
bVOWEL SIGN IdUbSIGN PAMUDPODaPHILIPPINE SINGLE PUNCTUATIONbDOUBLE.
1740aBUHID LETTER AcIcUcKAcGAcNGAcTAcDAcNAcPAcBAcMAcYAcRAcLAcWAcSAcHAbVOWEL SIGN IdU
1760aTAGBANWA LETTER AcIcUcKAcGAcNGAcTAcDAcNAcPAcBAcMAcYA
176EcLAcWAcSA
1772bVOWEL SIGN IdU
1780aKHMER LETTER KAcKHAcKOcKHOcNGOcCAcCHAcCOcCHOcNYOcDAcTTHAcDOcTTHOcNNOcTAcTHAcTOcTHOcNOcBAcPHA
cPOcPHOcMOcYOcROcLOcVOcSHAcSSOcSAcHAcLAcQAbINDEPENDENT VOWEL QAQdQAAdQIdQIIdQUdQUKdQUUdQUUVdRYdRYY
dLYdLYYdQEdQAIdQOO TYPE ONEfTWOdQAUbVOWEL INHERENT AQdAAcSIGN.dIdIIdYdYYdUdUUdUAdOEdYAdIEdEdAEdAI
dOOdAUbSIGN NIKAHITcREAHMUKcYUUKALEAPINTUcMUUSIKATOANcTRIISAPcBANTOCcROBATcTOANDAKHIATcKAKABAT
cAHSDAcSAMYOK SANNYAcVIRIAMcCOENGcBATHAMASATcKHANcBARIYOOSANcCAMNUC PII KUUHcLEK TOOcBEYYAL
cPHNAEK MUANcKOOMUUTbCURRENCY SYMBOL RIELbSIGN AVAKRAHASANYAcATTHACAN
17E0bDIGIT ZEROcONEcTWOcTHREEcFOURcFIVEcSIXcSEVENcEIGHTcNINE
17F0bSYMBOL LEK ATTAK SONeMUOYePIIeBEIeBUONePRAMePRAM-MUOYePRAM-PIIePRAM-BEIePRAM-BUON
1800aMONGOLIAN BIRGAbELLIPSISbCOMMAbFULL STOPbCOLONbFOUR DOTSbTODO SOFT HYPHEN
bSIBE SYLLABLE BOUNDARY MARKERbMANCHU COMMAcFULL STOPbNIRUGUbFREE VARIATION SELECTOR ONEeTWOeTHREE
bVOWEL SEPARATORbFREE VARIATION SELECTOR FOURbDIGIT ZEROcONEcTWOcTHREEcFOURcFIVEcSIXcSEVENcEIGHT
cNINE
1820bLETTER AcEcIcOcUcOEcUEcEEcNAcANGcBAcPAcQAcGAcMAcLAcSAcSHAcTAcDAcCHAcJAcYAcRAcWAcFAcKAcKHAcTSA
cZAcHAAcZRAcLHAcZHIcCHIcTODO LONG VOWEL SIGNdEdIdOdUdOEdUEdANGdBAdPAdQAdGAdMAdTAdDAdCHAdJAdTSAdYA
dWAdKAdGAAdHAAdJIAdNIAdDZAcSIBE EdIdIYdUEdUdANGdKAdGAdHAdPAdSHAdTAdDAdJAdFAdGAAdHAAdTSAdZAdRAAdCHA
dZHAcMANCHU IdKAdRAdFAdZHAcCHA WITH TWO DOTS
1880cALI GALI ANUSVARA ONEeVISARGA.eDAMARUeUBADAMAeINVERTED.eBALUDAeTHREE.eAeIeKAeNGAeCAeTTAeTTHA
eDDAeNNAeTAeDAePAePHAeSSAeZHAeZAeAHcTODO ALI GALI TAfZHAcMANCHU ALI GALI GHAfNGAfCAfJHAfTTAfDDHA
fTAfDHAfSSAfCYAfZHAfZAcALI GALI HALF UfYAcMANCHU ALI GALI BHAcALI GALI DAGALGAcMANCHU ALI GALI LHA
18B0aCANADIAN SYLLABICS OYcAYcAAYcWAYcPOYcPAYcPWOYcTAYcKAYcKWAYcMAYcNOYcNAYcLAYcSOYcSAYcSHOYcSHAY
cSHWOYcYOYcYAYcRAYcNWIcOJIBWAY.cNWIIcOJIBWAY.cNWOcOJIBWAY.cNWOOcOJIBWAY.cRWEEcRWIcRWIIcRWOcRWOO
cRWAcOJIBWAY PdTdKdCdMdNdSdSHcEASTERN WcWESTERN.cFINAL SMALL RINGdRAISED DOTcR-CREE RWE
cWEST-CREE LOOdLAAcTHWEcTHWAcTTHWEcTTHOOcTTHAAcTLHWEcTLHOOcSAYISI SHWEdSHOOdHOOcCARRIER GWU
dDENE GEEdGAAdGWAcSAYISI JUUcCARRIER JWAcBEAVER DENE LeRcCARRIER DENTAL S
1900aLIMBU VOWEL-CARRIER LETTERbLETTER KAcKHAcGAcGHAcNGAcCAcCHAcJAcJHAcYANcTAcTHAcDAcDHAcNAcPAcPHA
cBAcBHAcMAcYAcRAcLAcWAcSHAcSSAcSAcHAcGYANcTRA
1920bVOWEL SIGN AdIdUdEEdAIdOOdAUdEdObSUBJOINED LETTER YAdRAdWA
1930bSMALL LETTER KAdNGAdANUSVARAdTAdNAdPAdMAdRAdLAbSIGN MUKPHRENGcKEMPHRENGcSA-I
1940cLOO
1944bEXCLAMATION MARKbQUESTION.bDIGIT ZEROcONEcTWOcTHREEcFOURcFIVEcSIXcSEVENcEIGHTcNINE
aTAI LE LETTER KAdXAdNGAdTSAdSAdYAdTAdTHAdLAdPAdPHAdMAdFAdVAdHAdQAdKHAdTSHAdNAdAdIdEEdEHdUdOOdOdUE
dEdAUEdAI
1970dTONE-2dTONE-3dTONE-4dTONE-5dTONE-6
1980aNEW TAI LUE LETTER HIGH QAeLOW.eHIGH KAfXAfNGAeLOW KAfXAfNGAeHIGH TSAfSAfYAeLOW TSAfSAfYA
eHIGH TAfTHAfNAeLOW TAfTHAfNAeHIGH PAfPHAfMAeLOW PAfPHAfMAeHIGH FAfVAfLAeLOW FAfVAfLAeHIGH HAfDA
fBAeLOW HAfDAfBAeHIGH KVAfXVAeLOW KVAfXVAeHIGH SUAeLOW.
19B0dVOWEL SIGN VOWEL SHORTENERfAAfIIfUfUUfEfAEfOfOAfUEfAYfAAYfUYfOYfOAYfUEYfIYdLETTER FINAL VfNG
fNfMfKfDfBdTONE MARK-1eMARK-2
19D0dDIGIT ZEROeONEeTWOeTHREEeFOUReFIVEeSIXeSEVENeEIGHTeNINEdTHAM DIGIT ONE
19DEdSIGN LAEeLAEVaKHMER SYMBOL PATHAMASATcMUOY KOETcPII.cBEI.cBUON.cPRAM.cPRAM-MUOY.cPRAM-PII.
cPRAM-BEI.cPRAM-BUON.cDAP.cDAP-MUOY.cDAP-PII.cDAP-BEI.cDAP-BUON.cDAP-PRAM.cTUTEYASATcMUOY ROCcPII.
cBEI.cBUON.cPRAM.cPRAM-MUOY.cPRAM-PII.cPRAM-BEI.cPRAM-BUON.cDAP.cDAP-MUOY.cDAP-PII.cDAP-BEI.
cDAP-BUON.cDAP-PRAM.aBUGINESE LETTER KAcGAcNGAcNGKAcPAcBAcMAcMPAcTAcDAcNAcNRAcCAcJAcNYAcNYCAcYAcRA
cLAcVAcSAcAcHAbVOWEL SIGN IdUdEdOdAE
1A1EbPALLAWAbEND OF SECTIONaTAI THAM LETTER HIGH KAeKHAeKXAdLOW KAeKXAeKHAdNGAdHIGH CAeCHAdLOW CA
eSAeCHAdNYAdRATAdHIGH RATHAdDAdLOW RATHAdRANAdHIGH TAeTHAdLOW TAeTHAdNAdBAdHIGH PAePHAeFAdLOW PA
eFAePHAdMAdLOW YAdHIGH.dRAdRUEdLAdLUEdWAdHIGH SHAeSSAeSAeHAdLLAdAdLOW HAdIdIIdUdUUdEEdOOdLAE
dGREAT SAcCONSONANT SIGN MEDIAL RAfLAeLA TANG LAIcSIGN MAI KANG.cCONSONANT SIGN FINAL NGAeLOW PA
eHIGH RATHA OR..eMAeBAeSA
1A60cSIGN SAKOTcVOWEL SIGN AeMAI SATeAAeTALL.eIeIIeUEeUUEeUeUUeOeOA BELOWeOYeEeAEeOOeAIeTHAM.
eOA ABOVEcSIGN MAI KANGdTONE-1dTONE-2dKHUEN TONE-3eTONE-4eTONE-5dRA HAAMdMAI SAMdKHUEN-LUE KARAN
1A7FcCOMBINING CRYPTOGRAMMIC DOTcHORA DIGIT ZEROeONEeTWOeTHREEeFOUReFIVEeSIXeSEVENeEIGHTeNINE
1A90cTHAM DIGIT ZEROeONEeTWOeTHREEeFOUReFIVEeSIXeSEVENeEIGHTeNINE
1AA0cSIGN WIANGdWIANGWAAKdSAWANdKEOWdHOYdDOKMAIdREVERSED ROTATED RANAdMAI YAMOKdKAANdKAANKUU
dSATKAANdSATKAANKUUdHANGdCAANG
1AB0aCOMBINING DOUBLED CIRCUMFLEX ACCENTbDIAERESIS-RINGbINFINITYbDOWNWARDS ARROWbTRIPLE DOT
bX-X BELOWbWIGGLY LINE.bOPEN MARK.bDOUBLE...bLIGHT CENTRALIZATION STROKE.bSTRONG...
bPARENTHESES ABOVEbDOUBLE..bPARENTHESES BELOWcOVERLAYbLATIN SMALL LETTER W BELOWeTURNED..
bLEFT PARENTHESIS ABOVE LEFTbRIGHT PARENTHESIS ABOVE RIGHTbLEFT PARENTHESIS BELOW LEFT
bRIGHT PARENTHESIS BELOW RIGHTbSQUARE BRACKETS ABOVEbNUMBER SIGN.bINVERTED DOUBLE ARCH.bPLUS SIGN.
bDOUBLE...eBELOWbTRIPLE ACUTE ACCENTbLATIN SMALL LETTER INSULAR GfRfT
1B00aBALINESE SIGN ULU RICEMdCANDRAcCECEKcSURANGcBISAHbLETTER AKARAdTEDUNGcIKARAdTEDUNGcUKARA
dTEDUNGcRA REPAeTEDUNGcLA LENGAeTEDUNGcEKARAcAIKARAcOKARAdTEDUNGcKAdMAHAPRANAcGAdGORAcNGAcCAdLACA
cJAdJERAcNYAcTA LATIKdMURDA MAHAPRANAcDA MURDA ALPAPRANAeMAHAPRANAcNA RAMBATcTAdTAWAcDAdMADUcNAcPA
dKAPALcBAdKEMBANGcMAcYAcRAcLAcWAcSA SAGAdSAPAdcHAbSIGN REREKANbVOWEL SIGN TEDUNGdULUeSARIdSUKU
eILUTdRA REPAfTEDUNGdLA LENGAfTEDUNGdTALINGeREPAeTEDUNGeREPA.dPEPETeTEDUNGbADEG ADEG
bLETTER KAF SASAKcKHOT.cTZIR.cEF.cVE.cZAL.cASYURA.cARCHAIC JNYA
1B50bDIGIT ZEROcONEcTWOcTHREEcFOURcFIVEcSIXcSEVENcEIGHTcNINEbPANTIbPAMADAbWINDUbCARIK PAMUNGKAH
cSIKIcPARERENbPAMENENGbMUSICAL SYMBOL DONGdDENGdDUNGdDANGeSURANGdDINGdDAENGdDEUNGdDAINGdDANG GEDE
dCOMBINING TEGEHeENDEPeKEMPULeKEMPLIeJEGOGANeKEMPUL WITH.eKEMPLI..eBENDEeGONGdRIGHT-HAND OPEN DUG
fDAGeCLOSED TUKfTAKdLEFT-HAND OPEN PANGfPUNGeCLOSED PLAKfPLUKeOPEN PINGbPANTI LANTANGbPAMADA.
1B80aSUNDANESE SIGN PANYECEKcPANGLAYARcPANGWISADbLETTER AcIcUcAEcOcEcEUcKAcQAcGAcNGAcCAcJAcZAcNYA
cTAcDAcNAcPAcFAcVAcBAcMAcYAcRAcLAcWAcSAcXAcHAbCONSONANT SIGN PAMINGKALdPANYAKRAdPANYIKU
bVOWEL SIGN PANGHULUdPANYUKUdPANAELAENGdPANOLONGdPAMEPETdPANEULEUNGbSIGN PAMAAEHcVIRAMA
bCONSONANT SIGN PASANGAN MAeWAbLETTER KHAcSYAbDIGIT ZEROcONEcTWOcTHREEcFOURcFIVEcSIXcSEVENcEIGHT
cNINEbAVAGRAHAbLETTER REUcLEUcBHAcFINAL KdMaBATAK LETTER AcSIMALUNGUN.cHAcSIMALUNGUN.cMANDAILING.
cBAcKARO.cPAcSIMALUNGUN.cNAcMANDAILING.cWAcSIMALUNGUN.cPAKPAK.cGAcSIMALUNGUN.cJAcDAcRAcSIMALUNGUN.
cMAcSIMALUNGUN.cSOUTHERN TAcNORTHERN.cSAcSIMALUNGUN.cMANDAILING.cYAcSIMALUNGUN.cNGAcLAcSIMALUNGUN.
cNYAcCAcNDAcMBAcIcUbSIGN TOMPIbVOWEL SIGN EdPAKPAK.dEEdIdKARO.dOdKARO.dUeFOR SIMALUNGUN SA
bCONSONANT SIGN NGdHbPANGOLATbPANONGONAN
1BFCbSYMBOL BINDU NA METEKdPINARBORASdJUDULdPANGOLATaLEPCHA LETTER KAcKLAcKHAcGAcGLAcNGAcCAcCHAcJA
cNYAcTAcTHAcDAcNAcPAcPLAcPHAcFAcFLAcBAcBLAcMAcMLAcTSAcTSHAcDZAcYAcRAcLAcHAcHLAcVAcSAcSHAcWAcA
bSUBJOINED LETTER YAdRAbVOWEL SIGN AAdIdOdOOdUdUUdEbCONSONANT SIGN KdMdLdNdPdRdTdNYIN-DOdKANG
bSIGN RANcNUKTA
1C3BbPUNCTUATION TA-ROLcNYET THYOOM.cCER-WAcTSHOOK.dbDIGIT ZEROcONEcTWOcTHREEcFOURcFIVEcSIXcSEVEN
cEIGHTcNINE
1C4DbLETTER TTAcTTHAcDDAaOL CHIKI DIGIT ZEROdONEdTWOdTHREEdFOURdFIVEdSIXdSEVENdEIGHTdNINE
cLETTER LAdATdAGdANGdALdLAAdAAKdAAJdAAMdAAWdLIdISdIHdINYdIRdLUdUCdUDdUNNdUYdLEdEPdEDDdENdERRdLO
dOTTdOBdOVdOHcMU TTUDDAGcGAAHLAA TTUDDAAGcMU-GAAHLAA.cRELAAcPHAARKAAcAHADcPUNCTUATION MUCAAD
dDOUBLE.aCYRILLIC SMALL LETTER ROUNDED VEdLONG-LEGGED DEdNARROW OdWIDE ESdTALL TEdTHREE-LEGGED.
dTALL HARD SIGNeYATdUNBLENDED UK
1C90aGEORGIAN MTAVRULI CAPITAL LETTER ANeBANeGANeDONeENeVINeZENeTANeINeKANeLASeMANeNAReONePAReZHAR
eRAEeSANeTAReUNePHAReKHAReGHANeQAReSHINeCHINeCANeJILeCILeCHAReXANeJHANeHAEeHEeHIEeWEeHAReHOEeFIeYN
eELIFIeTURNED GANeAIN
1CBDeAENeHARD SIGNeLABIAL.aSUNDANESE PUNCTUATION BINDU SURYAdPANGLONGdPURNAMAdCAKRAdLEU SATANGA
dKA.dDA.dBA.
1CD0aVEDIC TONE KARSHANAcSHARAcPRENKHAbSIGN NIHSHVASAcYAJURVEDIC MIDLINE SVARITA
bTONE YAJURVEDIC AGGRAVATED INDEPENDENT.d..dKATHAKA..cCANDRA BELOW
cYAJURVEDIC KATHAKA INDEPENDENT SVARITA SCHROEDERcDOUBLE SVARITAcTRIPLE.cKATHAKA ANUDATTA
cDOT BELOWcTWO DOTS.cTHREE..cRIGVEDIC KASHMIRI INDEPENDENT SVARITAcATHARVAVEDIC..bSIGN VISARGA.
dUDATTAcREVERSED..cVISARGA ANUDATTAcREVERSED..cVISARGA UDATTA WITH TAILdANUDATTA..
cANUSVARA ANTARGOMUKHAdBAHIRGOMUKHAdVAMAGOMUKHAeWITH TAILcTIRYAKcHEXIFORM LONG ANUSVARAc..
cRTHANG..cANUSVARA UBHAYATO MUKHAcARDHAVISARGAcROTATED.bTONE CANDRA ABOVEbSIGN JIHVAMULIYA
cUPADHMANIYAcATIKRAMAbTONE RING ABOVEcDOUBLE..bSIGN DOUBLE ANUSVARA ANTARGOMUKHA
1D00aLATIN LETTER SMALL CAPITAL AeAEbSMALL LETTER TURNED.bLETTER SMALL CAPITAL BARRED BeCeDeETHeE
bSMALL LETTER TURNED OPEN.eIbLETTER SMALL CAPITAL JeKeL WITH STROKEeMeREVERSED NeOeOPEN.
bSMALL LETTER SIDEWAYS.eOPEN.eO WITH STROKEdTURNED OEbLETTER SMALL CAPITAL OU
bSMALL LETTER TOP HALF OdBOTTOM..bLETTER SMALL CAPITAL PeREVERSED ReTURNED.eTeU
bSMALL LETTER SIDEWAYS.eDIAERESIZED.eTURNED MbLETTER SMALL CAPITAL VeWeZeEZH
cVOICED LARYNGEAL SPIRANTcAINaGREEK LETTER SMALL CAPITAL GAMMAeLAMDAePIeRHOePSI
aCYRILLIC LETTER SMALL CAPITAL ELaMODIFIER LETTER CAPITAL AdAEdBdBARRED.dDdEdREVERSED.dGdHdIdJdKdL
dMdNdREVERSED.dOdOUdPdRdTdUdWcSMALL AdTURNED.dALPHAdTURNED AEdBdDdEdSCHWAdOPEN EdTURNED..dG
dTURNED IdKdMdENGdOdOPEN.dTOP HALF.dBOTTOM..dPdTdUdSIDEWAYS.dTURNED MdVdAINdBETAdGREEK GAMMAdDELTA
dGREEK PHIdCHIaLATIN SUBSCRIPT SMALL LETTER IeReUeVaGREEK SUBSCRIPT SMALL LETTER BETAeGAMMAeRHO
ePHIeCHIaLATIN SMALL LETTER UEdB WITH MIDDLE TILDEdD...dF...dM...dN...dP...dR...fFISHHOOK AND..
dS WITH..dT...dZ...dTURNED GaMODIFIER LETTER CYRILLIC ENaLATIN SMALL LETTER INSULAR G
dTH WITH STRIKETHROUGHcCAPITAL LETTER I WITH STROKEcLETTER IOTA..dP..cCAPITAL LETTER U..
cLETTER UPSILON..dB WITH PALATAL HOOKdD...dF...dG...dK...dL...dM...dN...dP...dR...dS...dESH...
dV...dX...dZ...dA WITH RETROFLEX.dALPHA...dD WITH HOOK AND TAILdE WITH RETROFLEX HOOKdOPEN....
dREVERSED.....dSCHWA...dI...dOPEN O...dESH...dU...dEZH...aMODIFIER LETTER SMALL TURNED ALPHAdC
eWITH CURLdETHdREVERSED OPEN EdFdDOTLESS J WITH STROKEdSCRIPT GdTURNED HdI WITH STROKEdIOTA
dCAPITAL IfWITH STROKEdJ WITH CROSSED-TAILdL WITH RETROFLEX HOOKfPALATAL.dCAPITAL LdM WITH HOOK
dTURNED M WITH LONG LEGdN WITH LEFT HOOKfRETROFLEX.dCAPITAL NdBARRED OdPHIdS WITH HOOKdESH
dT WITH PALATAL HOOKdU BARdUPSILONdCAPITAL UdV WITH HOOKdTURNED VdZeWITH RETROFLEX HOOKfCURLdEZH
dTHETAaCOMBINING DOTTED GRAVE ACCENTcACUTE.bSNAKE BELOWbSUSPENSION MARKbMACRON-ACUTEbGRAVE-MACRON
bMACRON-GRAVEbACUTE-MACRONbGRAVE-ACUTE-GRAVEbACUTE-GRAVE-ACUTEbLATIN SMALL LETTER R BELOW
bBREVE-MACRONbMACRON-BREVEbDOUBLE CIRCUMFLEX ABOVEbOGONEK.bZIGZAG BELOWbIS.bUR ABOVEbUS.
bLATIN SMALL LETTER FLATTENED OPEN A.eAEeAOeAVeC CEDILLAeINSULAR DeETHeGcLETTER SMALL CAPITAL.
cSMALL LETTER KeLcLETTER SMALL CAPITAL.fMcSMALL LETTER NcLETTER SMALL CAPITAL.fR
cSMALL LETTER R ROTUNDAeSeLONG.eZeALPHAeBeBETAeSCHWAeFeL WITH DOUBLE MIDDLE TILDE
eO WITH LIGHT CENTRALIZATION STROKEePeESHeU WITH LIGHT CENTRALIZATION STROKEeWeA WITH DIAERESIS
eO..eU..bUP TACK ABOVEbKAVYKA ABOVE RIGHTdLEFTbDOT..bWIDE INVERTED BRIDGE BELOWbDOT BELOW LEFT
bDELETION MARKbDOUBLE INVERTED BREVE BELOWbALMOST EQUAL TO.bLEFT ARROWHEAD ABOVE
bRIGHT ARROWHEAD AND DOWN ARROWHEAD BELOWaLATIN CAPITAL LETTER A WITH RING.bSMALL.....
bCAPITAL LETTER B WITH DOT ABOVEbSMALL.....bCAPITAL LETTER B WITH DOT BELOWbSMALL.....
bCAPITAL LETTER B WITH LINE.bSMALL.....bCAPITAL LETTER C WITH CEDILLA AND ACUTEbSMALL......
bCAPITAL LETTER D WITH DOT ABOVEbSMALL.....bCAPITAL LETTER D WITH DOT BELOWbSMALL.....
bCAPITAL LETTER D WITH LINE.bSMALL.....bCAPITAL LETTER D WITH CEDILLAbSMALL....
bCAPITAL LETTER D WITH CIRCUMFLEX BELOWbSMALL.....bCAPITAL LETTER E WITH MACRON AND GRAVE
bSMALL......bCAPITAL LETTER E WITH MACRON AND ACUTEbSMALL......
bCAPITAL LETTER E WITH CIRCUMFLEX BELOWbSMALL.....bCAPITAL LETTER E WITH TILDE.bSMALL.....
bCAPITAL LETTER E WITH CEDILLA AND BREVEbSMALL......bCAPITAL LETTER F WITH DOT ABOVEbSMALL.....
bCAPITAL LETTER G WITH MACRONbSMALL....bCAPITAL LETTER H WITH DOT ABOVEbSMALL.....
bCAPITAL LETTER H WITH DOT BELOWbSMALL.....bCAPITAL LETTER H WITH DIAERESISbSMALL....
bCAPITAL LETTER H WITH CEDILLAbSMALL....bCAPITAL LETTER H WITH BREVE BELOWbSMALL.....
bCAPITAL LETTER I WITH TILDE.bSMALL.....bCAPITAL LETTER I WITH DIAERESIS AND ACUTEbSMALL......
bCAPITAL LETTER K WITH.bSMALL....bCAPITAL LETTER K WITH DOT BELOWbSMALL.....
bCAPITAL LETTER K WITH LINE.bSMALL.....bCAPITAL LETTER L WITH DOT.bSMALL.....
bCAPITAL LETTER L WITH DOT BELOW AND MACRONbSMALL.......bCAPITAL LETTER L WITH LINE BELOW
bSMALL.....bCAPITAL LETTER L WITH CIRCUMFLEX.bSMALL.....bCAPITAL LETTER M WITH ACUTEbSMALL....
bCAPITAL LETTER M WITH DOT ABOVEbSMALL.....bCAPITAL LETTER M WITH DOT BELOWbSMALL.....
bCAPITAL LETTER N WITH DOT ABOVEbSMALL.....bCAPITAL LETTER N WITH DOT BELOWbSMALL.....
bCAPITAL LETTER N WITH LINE.bSMALL.....bCAPITAL LETTER N WITH CIRCUMFLEX.bSMALL.....
bCAPITAL LETTER O WITH TILDE AND ACUTEbSMALL......bCAPITAL LETTER O WITH TILDE AND DIAERESIS
bSMALL......bCAPITAL LETTER O WITH MACRON AND GRAVEbSMALL......
bCAPITAL LETTER O WITH MACRON AND ACUTEbSMALL......bCAPITAL LETTER P WITH.bSMALL....
bCAPITAL LETTER P WITH DOT ABOVEbSMALL.....bCAPITAL LETTER R...bSMALL.....
bCAPITAL LETTER R WITH DOT BELOWbSMALL.....bCAPITAL LETTER R WITH DOT BELOW AND MACRON
bSMALL.......bCAPITAL LETTER R WITH LINE BELOWbSMALL.....bCAPITAL LETTER S WITH DOT ABOVE
bSMALL.....bCAPITAL LETTER S WITH DOT BELOWbSMALL.....bCAPITAL LETTER S WITH ACUTE AND DOT ABOVE
bSMALL.......bCAPITAL LETTER S WITH CARON...bSMALL.......bCAPITAL LETTER S WITH DOT BELOW...
bSMALL........bCAPITAL LETTER T WITH..bSMALL.....bCAPITAL LETTER T WITH DOT BELOWbSMALL.....
bCAPITAL LETTER T WITH LINE.bSMALL.....bCAPITAL LETTER T WITH CIRCUMFLEX.bSMALL.....
bCAPITAL LETTER U WITH DIAERESIS.bSMALL.....bCAPITAL LETTER U WITH TILDE.bSMALL.....
bCAPITAL LETTER U WITH CIRCUMFLEX.bSMALL.....bCAPITAL LETTER U WITH TILDE AND ACUTEbSMALL......
bCAPITAL LETTER U WITH MACRON AND DIAERESISbSMALL......bCAPITAL LETTER V WITH TILDEbSMALL....
bCAPITAL LETTER V WITH DOT BELOWbSMALL.....bCAPITAL LETTER W WITH GRAVEbSMALL....
bCAPITAL LETTER W WITH ACUTEbSMALL....bCAPITAL LETTER W WITH DIAERESISbSMALL....
bCAPITAL LETTER W WITH DOT ABOVEbSMALL.....bCAPITAL LETTER W WITH DOT BELOWbSMALL.....
bCAPITAL LETTER X WITH DOT ABOVEbSMALL.....bCAPITAL LETTER X WITH DIAERESISbSMALL....
bCAPITAL LETTER Y WITH DOT ABOVEbSMALL.....bCAPITAL LETTER Z WITH CIRCUMFLEXbSMALL....
bCAPITAL LETTER Z WITH DOT BELOWbSMALL.....bCAPITAL LETTER Z WITH LINE.bSMALL.....dH...
dT WITH DIAERESISdW WITH RING ABOVEdY...dA WITH RIGHT HALF RINGdLONG S WITH DOT ABOVE
gDIAGONAL STROKEgHIGH.bCAPITAL LETTER SHARP SbSMALL LETTER DELTAbCAPITAL LETTER A WITH DOT BELOW
bSMALL.....bCAPITAL LETTER A WITH HOOK ABOVEbSMALL.....bCAPITAL LETTER A WITH CIRCUMFLEX AND ACUTE
bSMALL......bCAPITAL LETTER A WITH CIRCUMFLEX AND GRAVEbSMALL......
bCAPITAL LETTER A WITH CIRCUMFLEX AND HOOK ABOVEbSMALL.......
bCAPITAL LETTER A WITH CIRCUMFLEX AND TILDEbSMALL......
bCAPITAL LETTER A WITH CIRCUMFLEX AND DOT BELOWbSMALL.......bCAPITAL LETTER A WITH BREVE AND ACUTE
bSMALL......bCAPITAL LETTER A WITH BREVE AND GRAVEbSMALL......
bCAPITAL LETTER A WITH BREVE AND HOOK ABOVEbSMALL.......bCAPITAL LETTER A WITH BREVE AND TILDE
bSMALL......bCAPITAL LETTER A WITH BREVE AND DOT BELOWbSMALL.......bCAPITAL LETTER E WITH..
bSMALL.....bCAPITAL LETTER E WITH HOOK ABOVEbSMALL.....bCAPITAL LETTER E WITH TILDEbSMALL....
bCAPITAL LETTER E WITH CIRCUMFLEX AND ACUTEbSMALL......bCAPITAL LETTER E WITH CIRCUMFLEX AND GRAVE
bSMALL......bCAPITAL LETTER E WITH CIRCUMFLEX AND HOOK ABOVEbSMALL.......
bCAPITAL LETTER E WITH CIRCUMFLEX AND TILDEbSMALL......
bCAPITAL LETTER E WITH CIRCUMFLEX AND DOT BELOWbSMALL.......bCAPITAL LETTER I WITH HOOK ABOVE
bSMALL.....bCAPITAL LETTER I WITH DOT BELOWbSMALL.....bCAPITAL LETTER O...bSMALL.....
bCAPITAL LETTER O WITH HOOK ABOVEbSMALL.....bCAPITAL LETTER O WITH CIRCUMFLEX AND ACUTE
bSMALL......bCAPITAL LETTER O WITH CIRCUMFLEX AND GRAVEbSMALL......
bCAPITAL LETTER O WITH CIRCUMFLEX AND HOOK ABOVEbSMALL.......
bCAPITAL LETTER O WITH CIRCUMFLEX AND TILDEbSMALL......
bCAPITAL LETTER O WITH CIRCUMFLEX AND DOT BELOWbSMALL.......bCAPITAL LETTER O WITH HORN AND ACUTE
bSMALL......bCAPITAL LETTER O WITH HORN AND GRAVEbSMALL......
bCAPITAL LETTER O WITH HORN AND HOOK ABOVEbSMALL.......bCAPITAL LETTER O WITH HORN AND TILDE
bSMALL......bCAPITAL LETTER O WITH HORN AND DOT BELOWbSMALL.......bCAPITAL LETTER U WITH..
bSMALL.....bCAPITAL LETTER U WITH HOOK ABOVEbSMALL.....bCAPITAL LETTER U WITH HORN AND ACUTE
bSMALL......bCAPITAL LETTER U WITH HORN AND GRAVEbSMALL......
bCAPITAL LETTER U WITH HORN AND HOOK ABOVEbSMALL.......bCAPITAL LETTER U WITH HORN AND TILDE
bSMALL......bCAPITAL LETTER U WITH HORN AND DOT BELOWbSMALL.......bCAPITAL LETTER Y WITH GRAVE
bSMALL....bCAPITAL LETTER Y WITH DOT BELOWbSMALL.....bCAPITAL LETTER Y WITH HOOK ABOVEbSMALL.....
bCAPITAL LETTER Y WITH TILDEbSMALL....bCAPITAL LETTER MIDDLE-WELSH LLbSMALL...
bCAPITAL LETTER MIDDLE-WELSH VbSMALL...bCAPITAL LETTER Y WITH LOOPbSMALL....
aGREEK SMALL LETTER ALPHA WITH PSILIfDASIAfPSILI AND VARIAfDASIA..fPSILI AND OXIAfDASIA..
fPSILI AND PERISPOMENIfDASIA..bCAPITAL LETTER ALPHA WITH PSILIfDASIAfPSILI AND VARIAfDASIA..
fPSILI AND OXIAfDASIA..fPSILI AND PERISPOMENIfDASIA..bSMALL LETTER EPSILON WITH PSILIfDASIA
fPSILI AND VARIAfDASIA..fPSILI AND OXIAfDASIA..
1F18bCAPITAL LETTER EPSILON WITH PSILIfDASIAfPSILI AND VARIAfDASIA..fPSILI AND OXIAfDASIA..
1F20bSMALL LETTER ETA WITH PSILIfDASIAfPSILI AND VARIAfDASIA..fPSILI AND OXIAfDASIA..
fPSILI AND PERISPOMENIfDASIA..bCAPITAL LETTER ETA WITH PSILIfDASIAfPSILI AND VARIAfDASIA..
fPSILI AND OXIAfDASIA..fPSILI AND PERISPOMENIfDASIA..bSMALL LETTER IOTA WITH PSILIfDASIA
fPSILI AND VARIAfDASIA..fPSILI AND OXIAfDASIA..fPSILI AND PERISPOMENIfDASIA..
bCAPITAL LETTER IOTA WITH PSILIfDASIAfPSILI AND VARIAfDASIA..fPSILI AND OXIAfDASIA..
fPSILI AND PERISPOMENIfDASIA..bSMALL LETTER OMICRON WITH PSILIfDASIAfPSILI AND VARIAfDASIA..
fPSILI AND OXIAfDASIA..
1F48bCAPITAL LETTER OMICRON WITH PSILIfDASIAfPSILI AND VARIAfDASIA..fPSILI AND OXIAfDASIA..
1F50bSMALL LETTER UPSILON WITH PSILIfDASIAfPSILI AND VARIAfDASIA..fPSILI AND OXIAfDASIA..
fPSILI AND PERISPOMENIfDASIA..
1F59bCAPITAL LETTER UPSILON WITH DASIA
1F5BgAND VARIA
1F5DhOXIA
1F5FhPERISPOMENIbSMALL LETTER OMEGA WITH PSILIfDASIAfPSILI AND VARIAfDASIA..fPSILI AND OXIA
fDASIA..fPSILI AND PERISPOMENIfDASIA..bCAPITAL LETTER OMEGA WITH PSILIfDASIAfPSILI AND VARIA
fDASIA..fPSILI AND OXIAfDASIA..fPSILI AND PERISPOMENIfDASIA..bSMALL LETTER ALPHA WITH VARIAfOXIA
dEPSILON WITH VARIAfOXIAdETA WITH VARIAfOXIAdIOTA WITH VARIAfOXIAdOMICRON WITH VARIAfOXIA
dUPSILON WITH VARIAfOXIAdOMEGA WITH VARIAfOXIA
1F80dALPHA WITH PSILI AND YPOGEGRAMMENIfDASIA..fPSILI AND VARIA..fDASIA....fPSILI AND OXIA..
fDASIA....fPSILI AND PERISPOMENI..fDASIA....bCAPITAL LETTER ALPHA WITH PSILI AND PROSGEGRAMMENI
fDASIA..fPSILI AND VARIA..fDASIA....fPSILI AND OXIA..fDASIA....fPSILI AND PERISPOMENI..fDASIA....
bSMALL LETTER ETA WITH PSILI AND YPOGEGRAMMENIfDASIA..fPSILI AND VARIA..fDASIA....
fPSILI AND OXIA..fDASIA....fPSILI AND PERISPOMENI..fDASIA....
bCAPITAL LETTER ETA WITH PSILI AND PROSGEGRAMMENIfDASIA..fPSILI AND VARIA..fDASIA....
fPSILI AND OXIA..fDASIA....fPSILI AND PERISPOMENI..fDASIA....
bSMALL LETTER OMEGA WITH PSILI AND YPOGEGRAMMENIfDASIA..fPSILI AND VARIA..fDASIA....
fPSILI AND OXIA..fDASIA....fPSILI AND PERISPOMENI..fDASIA....
bCAPITAL LETTER OMEGA WITH PSILI AND PROSGEGRAMMENIfDASIA..fPSILI AND VARIA..fDASIA....
fPSILI AND OXIA..fDASIA....fPSILI AND PERISPOMENI..fDASIA....bSMALL LETTER ALPHA WITH VRACHY
fMACRONfVARIA AND YPOGEGRAMMENIf.fOXIA AND.
1FB6fPERISPOMENIgAND YPOGEGRAMMENIbCAPITAL LETTER ALPHA WITH VRACHYfMACRONfVARIAfOXIA
fPROSGEGRAMMENIbKORONISbPROSGEGRAMMENIbPSILIbPERISPOMENIbDIALYTIKA AND.
bSMALL LETTER ETA WITH VARIA AND YPOGEGRAMMENIf.fOXIA AND.
1FC6fPERISPOMENIgAND YPOGEGRAMMENIbCAPITAL LETTER EPSILON WITH VARIAfOXIAdETA WITH VARIAfOXIA
fPROSGEGRAMMENIbPSILI AND VARIAdOXIAdPERISPOMENIbSMALL LETTER IOTA WITH VRACHYfMACRON
fDIALYTIKA AND VARIAhOXIA
1FD6fPERISPOMENIfDIALYTIKA AND.bCAPITAL LETTER IOTA WITH VRACHYfMACRONfVARIAfOXIA
1FDDbDASIA AND VARIAdOXIAdPERISPOMENIbSMALL LETTER UPSILON WITH VRACHYfMACRONfDIALYTIKA AND VARIA
hOXIAdRHO WITH PSILIfDASIAdUPSILON WITH PERISPOMENIfDIALYTIKA AND.
bCAPITAL LETTER UPSILON WITH VRACHYfMACRONfVARIAfOXIAdRHO WITH DASIAbDIALYTIKA AND VARIAdOXIA
bVARIA
1FF2bSMALL LETTER OMEGA WITH VARIA AND YPOGEGRAMMENIf.fOXIA AND.
1FF6fPERISPOMENIgAND YPOGEGRAMMENIbCAPITAL LETTER OMICRON WITH VARIAfOXIAdOMEGA WITH VARIAfOXIA
fPROSGEGRAMMENIbOXIAbDASIA"

/-- Names of punctuation, symbols and supplements. -/
def symbolNames : String := "
2000aEN QUADaEM.aEN SPACEaEM.aTHREE-PER-EM.aFOUR-PER-EM.aSIX-PER-EM.aFIGURE.aPUNCTUATION.aTHIN.
aHAIR.aZERO WIDTH.cNON-JOINERcJOINERaLEFT-TO-RIGHT MARKaRIGHT-TO-LEFT.aHYPHENaNON-BREAKING.
aFIGURE DASHaEN.aEM.aHORIZONTAL BARaDOUBLE VERTICAL LINEbLOW.aLEFT SINGLE QUOTATION MARKaRIGHT...
aSINGLE LOW-9..bHIGH-REVERSED-9..aLEFT DOUBLE..aRIGHT...aDOUBLE LOW-9..bHIGH-REVERSED-9..aDAGGER
aDOUBLE.aBULLETaTRIANGULAR.aONE DOT LEADERaTWO..aHORIZONTAL ELLIPSISaHYPHENATION POINT
aLINE SEPARATORaPARAGRAPH.aLEFT-TO-RIGHT EMBEDDINGaRIGHT-TO-LEFT.aPOP DIRECTIONAL FORMATTING
aLEFT-TO-RIGHT OVERRIDEaRIGHT-TO-LEFT.aNARROW NO-BREAK SPACEaPER MILLE SIGNbTEN THOUSAND.aPRIME
aDOUBLE.aTRIPLE.aREVERSED.bDOUBLE.bTRIPLE.aCARETaSINGLE LEFT-POINTING ANGLE QUOTATION MARK
bRIGHT-POINTING...aREFERENCE.aDOUBLE EXCLAMATION.aINTERROBANGaOVERLINEaUNDERTIEaCHARACTER TIE
aCARET INSERTION POINTaASTERISMaHYPHEN BULLETaFRACTION SLASHaLEFT SQUARE BRACKET WITH QUILL
aRIGHT....aDOUBLE QUESTION MARKaQUESTION EXCLAMATION.aEXCLAMATION QUESTION.aTIRONIAN SIGN ET
aREVERSED PILCROW SIGNaBLACK LEFTWARDS BULLETbRIGHTWARDS.aLOW ASTERISKaREVERSED SEMICOLONaCLOSE UP
aTWO ASTERISKS ALIGNED VERTICALLYaCOMMERCIAL MINUS SIGNaSWUNG DASHaINVERTED UNDERTIE
aFLOWER PUNCTUATION MARKaTHREE DOT PUNCTUATIONaQUADRUPLE PRIMEaFOUR DOT PUNCTUATIONaFIVE..aTWO..
aFOUR DOT MARKaDOTTED CROSSaTRICOLONaVERTICAL FOUR DOTSaMEDIUM MATHEMATICAL SPACEaWORD JOINER
aFUNCTION APPLICATIONaINVISIBLE TIMESbSEPARATORbPLUS
2066aLEFT-TO-RIGHT ISOLATEaRIGHT-TO-LEFT.aFIRST STRONG.aPOP DIRECTIONAL.
aINHIBIT SYMMETRIC SWAPPINGaACTIVATE..aINHIBIT ARABIC FORM SHAPINGaACTIVATE...
aNATIONAL DIGIT SHAPESaNOMINAL..aSUPERSCRIPT ZERObLATIN SMALL LETTER I
2074bFOURbFIVEbSIXbSEVENbEIGHTbNINEbPLUS SIGNbMINUSbEQUALS SIGNbLEFT PARENTHESISbRIGHT.
bLATIN SMALL LETTER NaSUBSCRIPT ZERObONEbTWObTHREEbFOURbFIVEbSIXbSEVENbEIGHTbNINEbPLUS SIGNbMINUS
bEQUALS SIGNbLEFT PARENTHESISbRIGHT.
2090aLATIN SUBSCRIPT SMALL LETTER AeEeOeXeSCHWAeHeKeLeMeNePeSeT
20A0aEURO-CURRENCY SIGNaCOLON.aCRUZEIRO.aFRENCH FRANC.aLIRA.aMILL.aNAIRA.aPESETA.aRUPEE.aWON.
aNEW SHEQEL.aDONG.aEURO.aKIP.aTUGRIK.aDRACHMA.aGERMAN PENNY.aPESO.aGUARANI.aAUSTRAL.aHRYVNIA.
aCEDI.aLIVRE TOURNOIS.aSPESMILO.aTENGE.aINDIAN RUPEE.aTURKISH LIRA.aNORDIC MARK.aMANAT.aRUBLE.
aLARI.aBITCOIN.aSOM.
20D0aCOMBINING LEFT HARPOON ABOVEbRIGHT..bLONG VERTICAL LINE OVERLAYbSHORT...
bANTICLOCKWISE ARROW ABOVEbCLOCKWISE..bLEFT..bRIGHT..bRING OVERLAYbCLOCKWISE..bANTICLOCKWISE..
bTHREE DOTS ABOVEbFOUR..bENCLOSING CIRCLEcSQUAREcDIAMONDcCIRCLE BACKSLASHbLEFT RIGHT ARROW ABOVE
bENCLOSING SCREENcKEYCAPcUPWARD POINTING TRIANGLEbREVERSE SOLIDUS OVERLAYbDOUBLE VERTICAL STROKE.
bANNUITY SYMBOLbTRIPLE UNDERDOTbWIDE BRIDGE ABOVEbLEFTWARDS ARROW OVERLAYbLONG DOUBLE SOLIDUS.
bRIGHTWARDS HARPOON WITH BARB DOWNWARDSbLEFTWARDS....bLEFT ARROW BELOWbRIGHT..bASTERISK ABOVE
2100aACCOUNT OFaADDRESSED TO THE SUBJECTaDOUBLE-STRUCK CAPITAL CaDEGREE CELSIUSaCENTRE LINE SYMBOL
aCARE OFaCADA UNAaEULER CONSTANTaSCRUPLEaDEGREE FAHRENHEITaSCRIPT SMALL GbCAPITAL HaBLACK-LETTER..
aDOUBLE-STRUCK..aPLANCK CONSTANTcOVER TWO PIaSCRIPT CAPITAL IaBLACK-LETTER..aSCRIPT CAPITAL L
bSMALL.aL B BAR SYMBOLaDOUBLE-STRUCK CAPITAL NaNUMERO SIGNaSOUND RECORDING COPYRIGHT
aSCRIPT CAPITAL PaDOUBLE-STRUCK..cQaSCRIPT CAPITAL RaBLACK-LETTER..aDOUBLE-STRUCK..
aPRESCRIPTION TAKEaRESPONSEaSERVICE MARKaTELEPHONE SIGNaTRADE MARK.aVERSICLE
aDOUBLE-STRUCK CAPITAL ZaOUNCE SIGNaOHM.aINVERTED..aBLACK-LETTER CAPITAL Z
aTURNED GREEK SMALL LETTER IOTAaKELVIN SIGNaANGSTROM.aSCRIPT CAPITAL BaBLACK-LETTER CAPITAL C
aESTIMATED SYMBOLaSCRIPT SMALL EbCAPITAL.cFaTURNED..aSCRIPT CAPITAL MbSMALL OaALEF SYMBOLaBET.
aGIMEL.aDALET.aINFORMATION SOURCEaROTATED CAPITAL QaFACSIMILE SIGNaDOUBLE-STRUCK SMALL PIcGAMMA
bCAPITAL.cPIbN-ARY SUMMATIONaTURNED SANS-SERIF CAPITAL GdLaREVERSED...aTURNED SANS-SERIF CAPITAL Y
aDOUBLE-STRUCK ITALIC CAPITAL DcSMALL.dEdIdJaPROPERTY LINEaTURNED AMPERSANDaPER SIGNaAKTIESELSKAB
aTURNED SMALL FaSYMBOL FOR SAMARITAN SOURCEaVULGAR FRACTION ONE SEVENTHdNINTHdTENTHdTHIRD
cTWO THIRDScONE FIFTHcTWO FIFTHScTHREE.cFOUR.cONE SIXTHcFIVE SIXTHScONE EIGHTHcTHREE EIGHTHScFIVE.
cSEVEN.aFRACTION NUMERATOR ONEaROMAN NUMERAL.cTWOcTHREEcFOURcFIVEcSIXcSEVENcEIGHTcNINEcTENcELEVEN
cTWELVEcFIFTYcONE HUNDREDcFIVE.cONE THOUSANDaSMALL ROMAN NUMERAL ONEdTWOdTHREEdFOURdFIVEdSIXdSEVEN
dEIGHTdNINEdTENdELEVENdTWELVEdFIFTYdONE HUNDREDdFIVE.dONE THOUSANDaROMAN NUMERAL ONE THOUSAND C D
cFIVE THOUSANDcTEN.cREVERSED ONE HUNDREDaLATIN SMALL LETTER REVERSED CaROMAN NUMERAL SIX LATE FORM
cFIFTY EARLY.dTHOUSANDcONE HUNDRED.aVULGAR FRACTION ZERO THIRDSaTURNED DIGIT TWOcTHREE
2190aLEFTWARDS ARROWaUPWARDS.aRIGHTWARDS.aDOWNWARDS.aLEFT RIGHT.aUP DOWN.aNORTH WEST.bEAST.
aSOUTH..bWEST.aLEFTWARDS ARROW WITH STROKEaRIGHTWARDS...aLEFTWARDS WAVE ARROWaRIGHTWARDS..
aLEFTWARDS TWO HEADED.aUPWARDS...aRIGHTWARDS...aDOWNWARDS...aLEFTWARDS ARROW WITH TAIL
aRIGHTWARDS...aLEFTWARDS ARROW FROM BARaUPWARDS...aRIGHTWARDS...aDOWNWARDS...
aUP DOWN ARROW WITH BASEaLEFTWARDS ARROW WITH HOOKaRIGHTWARDS...aLEFTWARDS ARROW WITH LOOP
aRIGHTWARDS...aLEFT RIGHT WAVE ARROWcARROW WITH STROKEaDOWNWARDS ZIGZAG ARROW
aUPWARDS ARROW WITH TIP LEFTWARDSeRIGHTWARDSaDOWNWARDS ARROW WITH TIP LEFTWARDSeRIGHTWARDS
aRIGHTWARDS ARROW WITH CORNER DOWNWARDSaDOWNWARDS ARROW WITH CORNER LEFTWARDS
aANTICLOCKWISE TOP SEMICIRCLE ARROWaCLOCKWISE...aNORTH WEST ARROW TO LONG BAR
aLEFTWARDS ARROW TO BAR OVER RIGHTWARDS ARROW TO.aANTICLOCKWISE OPEN CIRCLE ARROWaCLOCKWISE...
aLEFTWARDS HARPOON WITH BARB UPWARDSeDOWNWARDSaUPWARDS HARPOON WITH BARB RIGHTWARDSeLEFTWARDS
aRIGHTWARDS HARPOON WITH BARB UPWARDSeDOWNWARDSaDOWNWARDS HARPOON WITH BARB RIGHTWARDSeLEFTWARDS
aRIGHTWARDS ARROW OVER LEFTWARDS ARROWaUPWARDS ARROW LEFTWARDS OF DOWNWARDS.
aLEFTWARDS ARROW OVER RIGHTWARDS.bPAIRED ARROWSaUPWARDS..aRIGHTWARDS..aDOWNWARDS..
aLEFTWARDS HARPOON OVER RIGHTWARDS HARPOONaRIGHTWARDS HARPOON OVER LEFTWARDS.
aLEFTWARDS DOUBLE ARROW WITH STROKEaLEFT RIGHT....aRIGHTWARDS....aLEFTWARDS DOUBLE ARROWaUPWARDS..
aRIGHTWARDS..aDOWNWARDS..aLEFT RIGHT..aUP DOWN..aNORTH WEST..bEAST..aSOUTH...bWEST..
aLEFTWARDS TRIPLE.aRIGHTWARDS..aLEFTWARDS SQUIGGLE.aRIGHTWARDS..aUPWARDS ARROW WITH DOUBLE STROKE
aDOWNWARDS....aLEFTWARDS DASHED ARROWaUPWARDS..aRIGHTWARDS..aDOWNWARDS..aLEFTWARDS ARROW TO BAR
aRIGHTWARDS...aLEFTWARDS WHITE ARROWaUPWARDS..aRIGHTWARDS..aDOWNWARDS..
aUPWARDS WHITE ARROW FROM BARdON PEDESTALfWITH HORIZONTAL BARgVERTICAL.cDOUBLE ARROWeON PEDESTAL
aRIGHTWARDS WHITE ARROW FROM WALLaNORTH WEST ARROW TO CORNERaSOUTH EAST...aUP DOWN WHITE ARROW
aRIGHT ARROW WITH SMALL CIRCLEaDOWNWARDS ARROW LEFTWARDS OF UPWARDS ARROWaTHREE RIGHTWARDS ARROWS
aLEFTWARDS ARROW WITH VERTICAL STROKEaRIGHTWARDS....aLEFT RIGHT....aLEFTWARDS ARROW WITH DOUBLE..
aRIGHTWARDS.....aLEFT RIGHT.....aLEFTWARDS OPEN-HEADED ARROWaRIGHTWARDS..aLEFT RIGHT..aFOR ALL
aCOMPLEMENTaPARTIAL DIFFERENTIALaTHERE EXISTSbDOES NOT EXISTaEMPTY SETaINCREMENTaNABLAaELEMENT OF
aNOT AN..aSMALL..aCONTAINS AS MEMBERaDOES NOT CONTAIN..aSMALL CONTAINS..aEND OF PROOF
aN-ARY PRODUCTbCOPRODUCTbSUMMATIONaMINUS SIGNaMINUS-OR-PLUS.aDOT PLUSaDIVISION SLASHaSET MINUS
aASTERISK OPERATORaRING.aBULLET.aSQUARE ROOTaCUBE.aFOURTH.aPROPORTIONAL TOaINFINITYaRIGHT ANGLEa.
aMEASURED.aSPHERICAL.aDIVIDESaDOES NOT DIVIDEaPARALLEL TOaNOT..aLOGICAL ANDbORaINTERSECTIONaUNION
aINTEGRALaDOUBLE.aTRIPLE.aCONTOUR.aSURFACE.aVOLUME.aCLOCKWISE.bCONTOUR.aANTICLOCKWISE..aTHEREFORE
aBECAUSEaRATIOaPROPORTIONaDOT MINUSaEXCESSaGEOMETRIC PROPORTIONaHOMOTHETICaTILDE OPERATOR
aREVERSED TILDEaINVERTED LAZY SaSINE WAVEaWREATH PRODUCTaNOT TILDEaMINUS.aASYMPTOTICALLY EQUAL TO
aNOT...aAPPROXIMATELY..bBUT NOT ACTUALLY..aNEITHER APPROXIMATELY NOR...aALMOST..aNOT...
aALMOST EQUAL OR..aTRIPLE TILDEaALL EQUAL TOaEQUIVALENT.aGEOMETRICALLY..aDIFFERENCE BETWEEN
aAPPROACHES THE LIMITaGEOMETRICALLY EQUAL TOaAPPROXIMATELY EQUAL TO OR THE IMAGE OF
aIMAGE OF OR APPROXIMATELY EQUAL TOaCOLON EQUALSaEQUALS COLONaRING IN EQUAL TOb..aCORRESPONDS.
aESTIMATESaEQUIANGULAR TOaSTAR EQUALSaDELTA EQUAL TOaEQUAL TO BY DEFINITIONaMEASURED BY
aQUESTIONED EQUAL TOaNOT..aIDENTICAL.aNOT..aSTRICTLY EQUIVALENT.aLESS-THAN OR EQUAL.
aGREATER-THAN...aLESS-THAN OVER..aGREATER-THAN...aLESS-THAN BUT NOT..aGREATER-THAN....
aMUCH LESS-THANbGREATER-THANaBETWEENaNOT EQUIVALENT TObLESS-THANbGREATER-THAN
aNEITHER LESS-THAN NOR EQUAL TObGREATER-THAN...aLESS-THAN OR EQUIVALENT.aGREATER-THAN...
aNEITHER LESS-THAN NOR..bGREATER-THAN...aLESS-THAN OR GREATER-THANaGREATER-THAN OR LESS-THAN
aNEITHER LESS-THAN NOR GREATER-THANbGREATER-THAN NOR LESS-THANaPRECEDESaSUCCEEDS
aPRECEDES OR EQUAL TOaSUCCEEDS...aPRECEDES OR EQUIVALENT.aSUCCEEDS...aDOES NOT PRECEDEcSUCCEED
aSUBSET OFaSUPERSET.aNOT A SUBSET.cSUPERSET.aSUBSET OF OR EQUAL TOaSUPERSET....
aNEITHER A SUBSET OF NOR..cSUPERSET....aSUBSET OF WITH NOT..aSUPERSET.....aMULTISETbMULTIPLICATION
bUNIONaSQUARE IMAGE OFbORIGINAL.bIMAGE OF OR EQUAL TObORIGINAL....bCAPbCUPaCIRCLED PLUSbMINUS
bTIMESbDIVISION SLASHbDOT OPERATORbRING.bASTERISK.bEQUALSbDASHaSQUARED PLUSbMINUSbTIMES
bDOT OPERATORaRIGHT TACKaLEFT.aDOWN.aUP.aASSERTIONaMODELSaTRUEaFORCES
aTRIPLE VERTICAL BAR RIGHT TURNSTILEaDOUBLE VERTICAL BAR DOUBLE..aDOES NOT PROVEaNOT TRUE
aDOES NOT FORCEaNEGATED DOUBLE VERTICAL BAR DOUBLE RIGHT TURNSTILEaPRECEDES UNDER RELATION
aSUCCEEDS..aNORMAL SUBGROUP OFaCONTAINS AS NORMAL SUBGROUPaNORMAL SUBGROUP OF OR EQUAL TO
aCONTAINS AS NORMAL SUBGROUP...aORIGINAL OFaIMAGE.aMULTIMAPaHERMITIAN CONJUGATE MATRIXaINTERCALATE
aXORaNANDaNORaRIGHT ANGLE WITH ARCbTRIANGLEaN-ARY LOGICAL ANDcORbINTERSECTIONbUNION
aDIAMOND OPERATORaDOT.aSTAR.aDIVISION TIMESaBOWTIEaLEFT NORMAL FACTOR SEMIDIRECT PRODUCTaRIGHT....
aLEFT..aRIGHT..aREVERSED TILDE EQUALSaCURLY LOGICAL ORcANDaDOUBLE SUBSETbSUPERSETbINTERSECTION
bUNIONaPITCHFORKaEQUAL AND PARALLEL TOaLESS-THAN WITH DOTaGREATER-THAN..aVERY MUCH LESS-THAN
cGREATER-THANaLESS-THAN EQUAL TO OR.aGREATER-THAN EQUAL TO OR LESS-THANa....dGREATER-THANdPRECEDES
dSUCCEEDSaDOES NOT PRECEDE OR EQUALcSUCCEED..aNOT SQUARE IMAGE OF OR EQUAL TOcORIGINAL....
aSQUARE IMAGE OF OR NOT..bORIGINAL.....aLESS-THAN BUT NOT EQUIVALENT.aGREATER-THAN....
aPRECEDES....aSUCCEEDS....aNOT NORMAL SUBGROUP OFaDOES NOT CONTAIN AS NORMAL SUBGROUP
aNOT NORMAL SUBGROUP OF OR EQUAL TOaDOES NOT CONTAIN AS NORMAL SUBGROUP OR EQUALaVERTICAL ELLIPSIS
aMIDLINE HORIZONTAL.aUP RIGHT DIAGONAL.aDOWN...aELEMENT OF WITH LONG HORIZONTAL STROKE
dVERTICAL BAR AT END OF..aSMALL..........aELEMENT OF WITH DOT ABOVEdOVERBARaSMALL....
aELEMENT OF WITH UNDERBARdTWO HORIZONTAL STROKESaCONTAINS WITH LONG HORIZONTAL STROKE
cVERTICAL BAR AT END OF..aSMALL.........aCONTAINS WITH OVERBARaSMALL...aZ NOTATION BAG MEMBERSHIP
aDIAMETER SIGNaELECTRIC ARROWaHOUSEaUP ARROWHEADaDOWN.aPROJECTIVEaPERSPECTIVEaWAVY LINE
aLEFT CEILINGaRIGHT.aLEFT FLOORaRIGHT.aBOTTOM RIGHT CROPbLEFT.aTOP RIGHT.bLEFT.aREVERSED NOT SIGN
aSQUARE LOZENGEaARCaSEGMENTaSECTORaTELEPHONE RECORDERaPOSITION INDICATORaVIEWDATA SQUARE
aPLACE OF INTEREST SIGNaTURNED NOT.aWATCHaHOURGLASSaTOP LEFT CORNERbRIGHT.aBOTTOM LEFT.bRIGHT.
aTOP HALF INTEGRALaBOTTOM..aFROWNaSMILEaUP ARROWHEAD BETWEEN TWO HORIZONTAL BARSaOPTION KEY
aERASE TO THE RIGHTaX IN A RECTANGLE BOXaKEYBOARDaLEFT-POINTING ANGLE BRACKETaRIGHT-POINTING..
aERASE TO THE LEFTaBENZENE RINGaCYLINDRICITYaALL AROUND-PROFILEaSYMMETRYaTOTAL RUNOUT
aDIMENSION ORIGINaCONICAL TAPERaSLOPEaCOUNTERBOREaCOUNTERSINKaAPL FUNCTIONAL SYMBOL I-BEAM
dSQUISH QUADdQUAD EQUALeDIVIDEeDIAMONDeJOTeCIRCLEdCIRCLE STILEeJOTdSLASH BARdBACKSLASH.dQUAD SLASH
eBACKSLASHeLESS-THANeGREATER-THANdLEFTWARDS VANEdRIGHTWARDS.dQUAD LEFTWARDS ARROWeRIGHTWARDS.
dCIRCLE BACKSLASHdDOWN TACK UNDERBARdDELTA STILEdQUAD DOWN CARETeDELTAdDOWN TACK JOTdUPWARDS VANE
dQUAD UPWARDS ARROWdUP TACK OVERBARdDEL STILEdQUAD UP CARETeDELdUP TACK JOTdDOWNWARDS VANE
dQUAD DOWNWARDS ARROWdQUOTE UNDERBARdDELTA.dDIAMOND.dJOT.dCIRCLE.dUP SHOE JOTdQUOTE QUAD
dCIRCLE STARdQUAD COLONdUP TACK DIAERESISdDEL.dSTAR.dJOT.dCIRCLE.dDOWN SHOE STILEdLEFT..
dTILDE DIAERESISdGREATER-THAN.dCOMMA BARdDEL TILDEdZILDEdSTILE TILDEdSEMICOLON UNDERBAR
dQUAD NOT EQUALeQUESTIONdDOWN CARET TILDEdUP..dIOTAdRHOdOMEGAdALPHA UNDERBARdEPSILON.dIOTA.dOMEGA.
dALPHAaNOT CHECK MARKaRIGHT ANGLE WITH DOWNWARDS ZIGZAG ARROWaSHOULDERED OPEN BOXaBELL SYMBOL
aVERTICAL LINE WITH MIDDLE DOTaINSERTION SYMBOLaCONTINUOUS UNDERLINE.aDISCONTINUOUS..aEMPHASIS.
aCOMPOSITION.aWHITE SQUARE WITH CENTRE VERTICAL LINEaENTER SYMBOLaALTERNATIVE KEY.aHELM.
aCIRCLED HORIZONTAL BAR WITH NOTCHbTRIANGLE DOWNaBROKEN CIRCLE WITH NORTHWEST ARROWaUNDO SYMBOL
aMONOSTABLE.aHYSTERESIS.aOPEN-CIRCUIT-OUTPUT H-TYPE.bL-TYPE.aPASSIVE-PULL-DOWN-OUTPUT.
aPASSIVE-PULL-UP-OUTPUT.aDIRECT CURRENT SYMBOL FORM TWOaSOFTWARE-FUNCTION SYMBOL
aAPL FUNCTIONAL SYMBOL QUADaDECIMAL SEPARATOR KEY SYMBOLaPREVIOUS PAGEaNEXT.aPRINT SCREEN SYMBOL
aCLEAR..aLEFT PARENTHESIS UPPER HOOKcEXTENSIONcLOWER HOOKaRIGHT PARENTHESIS UPPER.cEXTENSION
cLOWER HOOKaLEFT SQUARE BRACKET UPPER CORNERdEXTENSIONdLOWER CORNERaRIGHT SQUARE BRACKET UPPER.
dEXTENSIONdLOWER CORNERaLEFT CURLY BRACKET UPPER HOOKdMIDDLE PIECEdLOWER HOOK
aCURLY BRACKET EXTENSIONaRIGHT CURLY BRACKET UPPER HOOKdMIDDLE PIECEdLOWER HOOKaINTEGRAL EXTENSION
aHORIZONTAL LINE.aUPPER LEFT OR LOWER RIGHT CURLY BRACKET SECTIONbRIGHT OR LOWER LEFT...
aSUMMATION TOPbBOTTOMaTOP SQUARE BRACKETaBOTTOM..dOVER TOP SQUARE BRACKETaRADICAL SYMBOL BOTTOM
aLEFT VERTICAL BOX LINEaRIGHT...aHORIZONTAL SCAN LINE-1cLINE-3cLINE-7cLINE-9
aDENTISTRY SYMBOL LIGHT VERTICAL AND TOP RIGHTfBOTTOM.eWITH CIRCLEdDOWN AND HORIZONTAL..dUP....
dVERTICAL WITH TRIANGLEdDOWN AND HORIZONTAL..dUP....dVERTICAL AND WAVEdDOWN AND HORIZONTAL WITH.
dUP....dDOWN AND HORIZONTALdUP..dVERTICAL AND TOP LEFTfBOTTOM.aSQUARE FOOTaRETURN SYMBOLaEJECT.
aVERTICAL LINE EXTENSIONaMETRICAL BREVEbLONG OVER SHORTbSHORT OVER LONGbLONG OVER TWO SHORTS
bTWO SHORTS OVER LONGdJOINEDbTRISEMEbTETRASEMEbPENTASEMEaEARTH GROUNDaFUSEaTOP PARENTHESISaBOTTOM.
aTOP CURLY BRACKETaBOTTOM..aTOP TORTOISE SHELL.aBOTTOM...aWHITE TRAPEZIUMaBENZENE RING WITH CIRCLE
aSTRAIGHTNESSaFLATNESSaAC CURRENTaELECTRICAL INTERSECTIONaDECIMAL EXPONENT SYMBOL
aBLACK RIGHT-POINTING DOUBLE TRIANGLEbLEFT-POINTING..bUP-POINTING..bDOWN-POINTING..
bRIGHT-POINTING DOUBLE TRIANGLE WITH VERTICAL BARbLEFT-POINTING.....
bRIGHT-POINTING TRIANGLE WITH DOUBLE..aALARM CLOCKaSTOPWATCHaTIMER CLOCK
aHOURGLASS WITH FLOWING SANDaBLACK MEDIUM LEFT-POINTING TRIANGLEcRIGHT-POINTING.cUP-POINTING.
cDOWN-POINTING.aDOUBLE VERTICAL BARaBLACK SQUARE FOR STOPbCIRCLE FOR RECORDaPOWER SYMBOLbON-OFF.
bON.bSLEEP.aOBSERVER EYE.aSYMBOL FOR NULLcSTART OF HEADINGeTEXTcEND..eTRANSMISSIONcENQUIRY
cACKNOWLEDGEcBELLcBACKSPACEcHORIZONTAL TABULATIONcLINE FEEDcVERTICAL TABULATIONcFORM FEED
cCARRIAGE RETURNcSHIFT OUTdINcDATA LINK ESCAPEcDEVICE CONTROL ONEeTWOeTHREEeFOUR
cNEGATIVE ACKNOWLEDGEcSYNCHRONOUS IDLEcEND OF TRANSMISSION BLOCKcCANCELcEND OF MEDIUMcSUBSTITUTE
cESCAPEcFILE SEPARATORcGROUP.cRECORD.cUNIT.cSPACEcDELETEaBLANK SYMBOLaOPEN BOXaSYMBOL FOR NEWLINE
cDELETE FORM TWOcSUBSTITUTE..
2440aOCR HOOKbCHAIRbFORKbINVERTED.bBELT BUCKLEbBOW TIEbBRANCH BANK IDENTIFICATIONbAMOUNT OF CHECK
bDASHbCUSTOMER ACCOUNT NUMBERbDOUBLE BACKSLASH
2460aCIRCLED DIGIT ONEcTWOcTHREEcFOURcFIVEcSIXcSEVENcEIGHTcNINEbNUMBER TENcELEVENcTWELVEcTHIRTEEN
cFOURTEENcFIFTEENcSIXTEENcSEVENTEENcEIGHTEENcNINETEENcTWENTYaPARENTHESIZED DIGIT ONEcTWOcTHREE
cFOURcFIVEcSIXcSEVENcEIGHTcNINEbNUMBER TENcELEVENcTWELVEcTHIRTEENcFOURTEENcFIFTEENcSIXTEEN
cSEVENTEENcEIGHTEENcNINETEENcTWENTYaDIGIT ONE FULL STOPbTWO..bTHREE..bFOUR..bFIVE..bSIX..bSEVEN..
bEIGHT..bNINE..aNUMBER TEN..bELEVEN..bTWELVE..bTHIRTEEN..bFOURTEEN..bFIFTEEN..bSIXTEEN..
bSEVENTEEN..bEIGHTEEN..bNINETEEN..bTWENTY..aPARENTHESIZED LATIN SMALL LETTER AeBeCeDeEeFeGeHeIeJeK
eLeMeNeOePeQeReSeTeUeVeWeXeYeZaCIRCLED LATIN CAPITAL LETTER AeBeCeDeEeFeGeHeIeJeKeLeMeNeOePeQeReS
eTeUeVeWeXeYeZcSMALL LETTER AeBeCeDeEeFeGeHeIeJeKeLeMeNeOePeQeReSeTeUeVeWeXeYeZbDIGIT ZERO
aNEGATIVE CIRCLED NUMBER ELEVENdTWELVEdTHIRTEENdFOURTEENdFIFTEENdSIXTEENdSEVENTEENdEIGHTEEN
dNINETEENdTWENTYaDOUBLE CIRCLED DIGIT ONEdTWOdTHREEdFOURdFIVEdSIXdSEVENdEIGHTdNINEcNUMBER TEN
aNEGATIVE CIRCLED DIGIT ZEROaBOX DRAWINGS LIGHT HORIZONTALcHEAVY.cLIGHT VERTICALcHEAVY.
cLIGHT TRIPLE DASH HORIZONTALcHEAVY...cLIGHT TRIPLE DASH VERTICALcHEAVY...
cLIGHT QUADRUPLE DASH HORIZONTALcHEAVY...cLIGHT QUADRUPLE DASH VERTICALcHEAVY...
cLIGHT DOWN AND RIGHTcDOWN LIGHT AND RIGHT HEAVYdHEAVY AND RIGHT LIGHTcHEAVY DOWN AND RIGHT
cLIGHT DOWN AND LEFTcDOWN LIGHT AND LEFT HEAVYdHEAVY AND LEFT LIGHTcHEAVY DOWN AND LEFT
cLIGHT UP AND RIGHTcUP LIGHT AND RIGHT HEAVYdHEAVY AND RIGHT LIGHTcHEAVY UP AND RIGHT
cLIGHT UP AND LEFTcUP LIGHT AND LEFT HEAVYdHEAVY AND LEFT LIGHTcHEAVY UP AND LEFT
cLIGHT VERTICAL AND RIGHTcVERTICAL LIGHT AND RIGHT HEAVYcUP HEAVY AND RIGHT DOWN LIGHT
cDOWN HEAVY AND RIGHT UP.cVERTICAL HEAVY AND RIGHT.cDOWN LIGHT AND RIGHT UP HEAVY
cUP LIGHT AND RIGHT DOWN.cHEAVY VERTICAL AND RIGHTcLIGHT VERTICAL AND LEFT
cVERTICAL LIGHT AND LEFT HEAVYcUP HEAVY AND LEFT DOWN LIGHTcDOWN HEAVY AND LEFT UP.
cVERTICAL HEAVY AND LEFT.cDOWN LIGHT AND LEFT UP HEAVYcUP LIGHT AND LEFT DOWN.
cHEAVY VERTICAL AND LEFTcLIGHT DOWN AND HORIZONTALcLEFT HEAVY AND RIGHT DOWN LIGHT
cRIGHT HEAVY AND LEFT..cDOWN LIGHT AND HORIZONTAL HEAVYdHEAVY AND HORIZONTAL LIGHT
cRIGHT LIGHT AND LEFT DOWN HEAVYcLEFT LIGHT AND RIGHT..cHEAVY DOWN AND HORIZONTALcLIGHT UP..
cLEFT HEAVY AND RIGHT UP LIGHTcRIGHT HEAVY AND LEFT..cUP LIGHT AND HORIZONTAL HEAVY
dHEAVY AND HORIZONTAL LIGHTcRIGHT LIGHT AND LEFT UP HEAVYcLEFT LIGHT AND RIGHT..
cHEAVY UP AND HORIZONTALcLIGHT VERTICAL..cLEFT HEAVY AND RIGHT VERTICAL LIGHT
cRIGHT HEAVY AND LEFT..cVERTICAL LIGHT AND HORIZONTAL HEAVYcUP HEAVY AND DOWN HORIZONTAL LIGHT
cDOWN HEAVY AND UP..cVERTICAL HEAVY AND..cLEFT UP HEAVY AND RIGHT DOWN.cRIGHT UP HEAVY AND LEFT..
cLEFT DOWN HEAVY AND RIGHT UP.cRIGHT DOWN HEAVY AND LEFT..cDOWN LIGHT AND UP HORIZONTAL HEAVY
cUP LIGHT AND DOWN..cRIGHT LIGHT AND LEFT VERTICAL.cLEFT LIGHT AND RIGHT..
cHEAVY VERTICAL AND HORIZONTALcLIGHT DOUBLE DASH.cHEAVY...cLIGHT DOUBLE DASH VERTICALcHEAVY...
cDOUBLE HORIZONTALdVERTICALcDOWN SINGLE AND RIGHT DOUBLEdDOUBLE AND RIGHT SINGLE
cDOUBLE DOWN AND RIGHTcDOWN SINGLE AND LEFT DOUBLEdDOUBLE AND LEFT SINGLEcDOUBLE DOWN AND LEFT
cUP SINGLE AND RIGHT DOUBLEdDOUBLE AND RIGHT SINGLEcDOUBLE UP AND RIGHTcUP SINGLE AND LEFT DOUBLE
dDOUBLE AND LEFT SINGLEcDOUBLE UP AND LEFTcVERTICAL SINGLE AND RIGHT DOUBLE
dDOUBLE AND RIGHT SINGLEcDOUBLE VERTICAL AND RIGHTcVERTICAL SINGLE AND LEFT DOUBLE
dDOUBLE AND LEFT SINGLEcDOUBLE VERTICAL AND LEFTcDOWN SINGLE AND HORIZONTAL DOUBLE
dDOUBLE AND HORIZONTAL SINGLEcDOUBLE DOWN AND HORIZONTALcUP SINGLE AND HORIZONTAL DOUBLE
dDOUBLE AND HORIZONTAL SINGLEcDOUBLE UP AND HORIZONTALcVERTICAL SINGLE AND HORIZONTAL DOUBLE
dDOUBLE AND HORIZONTAL SINGLEcDOUBLE VERTICAL AND HORIZONTALcLIGHT ARC DOWN AND RIGHTgLEFTeUP..
gRIGHTdDIAGONAL UPPER RIGHT TO LOWER LEFTfLEFT TO LOWER RIGHTeCROSSdLEFTdUPdRIGHTdDOWNcHEAVY LEFT
dUPdRIGHTdDOWNcLIGHT LEFT AND HEAVY RIGHTdUP AND HEAVY DOWNcHEAVY LEFT AND LIGHT RIGHT
dUP AND LIGHT DOWNaUPPER HALF BLOCKaLOWER ONE EIGHTH.cQUARTER.bTHREE EIGHTHS.bHALF.bFIVE EIGHTHS.
bTHREE QUARTERS.bSEVEN EIGHTHS.aFULL.aLEFT SEVEN EIGHTHS.bTHREE QUARTERS.bFIVE EIGHTHS.bHALF.
bTHREE EIGHTHS.bONE QUARTER.cEIGHTH.aRIGHT HALF.aLIGHT SHADEaMEDIUM.aDARK.aUPPER ONE EIGHTH BLOCK
aRIGHT...aQUADRANT LOWER LEFTcRIGHTbUPPER LEFTdAND LOWER LEFT AND LOWER RIGHTf.
eUPPER RIGHT AND LOWER LEFTiRIGHTc.dAND LOWER LEFTgAND LOWER RIGHTaBLACK SQUAREaWHITE.
cWITH ROUNDED CORNERScCONTAINING BLACK SMALL SQUAREaSQUARE WITH HORIZONTAL FILLcVERTICAL.
cORTHOGONAL CROSSHATCH.cUPPER LEFT TO LOWER RIGHT.dRIGHT TO LOWER LEFT.cDIAGONAL CROSSHATCH.
aBLACK SMALL SQUAREaWHITE..aBLACK RECTANGLEaWHITE.aBLACK VERTICAL.aWHITE..aBLACK PARALLELOGRAM
aWHITE.aBLACK UP-POINTING TRIANGLEaWHITE..aBLACK UP-POINTING SMALL.aWHITE...aBLACK RIGHT-POINTING.
aWHITE..aBLACK RIGHT-POINTING SMALL.aWHITE...aBLACK RIGHT-POINTING POINTERaWHITE..
aBLACK DOWN-POINTING TRIANGLEaWHITE..aBLACK DOWN-POINTING SMALL.aWHITE...aBLACK LEFT-POINTING.
aWHITE..aBLACK LEFT-POINTING SMALL.aWHITE...aBLACK LEFT-POINTING POINTERaWHITE..aBLACK DIAMOND
aWHITE.cCONTAINING BLACK SMALL DIAMONDaFISHEYEaLOZENGEaWHITE CIRCLEaDOTTED.
aCIRCLE WITH VERTICAL FILLaBULLSEYEaBLACK CIRCLEaCIRCLE WITH LEFT HALF BLACKcRIGHT..cLOWER..
cUPPER..dRIGHT QUADRANT.cALL BUT UPPER LEFT..aLEFT HALF BLACK CIRCLEaRIGHT...aINVERSE BULLET
bWHITE CIRCLEaUPPER HALF...aLOWER....aUPPER LEFT QUADRANT CIRCULAR ARCbRIGHT...aLOWER....bLEFT...
aUPPER HALF CIRCLEaLOWER..aBLACK LOWER RIGHT TRIANGLEcLEFT.bUPPER..cRIGHT.aWHITE BULLET
aSQUARE WITH LEFT HALF BLACKcRIGHT..cUPPER LEFT DIAGONAL..cLOWER RIGHT...
aWHITE SQUARE WITH VERTICAL BISECTING LINEbUP-POINTING TRIANGLE WITH DOT
aUP-POINTING TRIANGLE WITH LEFT HALF BLACKdRIGHT..aLARGE CIRCLE
aWHITE SQUARE WITH UPPER LEFT QUADRANTdLOWER..eRIGHT.dUPPER..bCIRCLE WITH UPPER LEFT.dLOWER..
eRIGHT.dUPPER..aUPPER LEFT TRIANGLEbRIGHT.aLOWER LEFT.aWHITE MEDIUM SQUAREaBLACK..
aWHITE MEDIUM SMALL.aBLACK...aLOWER RIGHT TRIANGLEaBLACK SUN WITH RAYSaCLOUDaUMBRELLAaSNOWMAN
aCOMETaBLACK STARaWHITE.aLIGHTNINGaTHUNDERSTORMaSUNaASCENDING NODEaDESCENDING.aCONJUNCTION
aOPPOSITIONaBLACK TELEPHONEaWHITE.aBALLOT BOXcWITH CHECKdXaSALTIREaUMBRELLA WITH RAIN DROPS
aHOT BEVERAGEaWHITE SHOGI PIECEaBLACK..aSHAMROCKaREVERSED ROTATED FLORAL HEART BULLET
aBLACK LEFT POINTING INDEXbRIGHT..aWHITE LEFT..bUP..bRIGHT..bDOWN..aSKULL AND CROSSBONES
aCAUTION SIGNaRADIOACTIVE.aBIOHAZARD.aCADUCEUSaANKHaORTHODOX CROSSaCHI RHOaCROSS OF LORRAINE
cJERUSALEMaSTAR AND CRESCENTaFARSI SYMBOLaADI SHAKTIaHAMMER AND SICKLEaPEACE SYMBOLaYIN YANG
aTRIGRAM FOR HEAVENcLAKEcFIREcTHUNDERcWINDcWATERcMOUNTAINcEARTHaWHEEL OF DHARMA
aWHITE FROWNING FACEbSMILING.aBLACK..aWHITE SUN WITH RAYSaFIRST QUARTER MOONaLAST..aMERCURY
aFEMALE SIGNaEARTHaMALE SIGNaJUPITERaSATURNaURANUSaNEPTUNEaPLUTOaARIESaTAURUSaGEMINIaCANCERaLEO
aVIRGOaLIBRAaSCORPIUSaSAGITTARIUSaCAPRICORNaAQUARIUSaPISCESaWHITE CHESS KINGcQUEENcROOKcBISHOP
cKNIGHTcPAWNaBLACK CHESS KINGcQUEENcROOKcBISHOPcKNIGHTcPAWNbSPADE SUITaWHITE HEART.bDIAMOND.
aBLACK CLUB.aWHITE SPADE.aBLACK HEART.bDIAMOND.aWHITE CLUB.aHOT SPRINGSaQUARTER NOTEaEIGHTH.
aBEAMED EIGHTH NOTESbSIXTEENTH.aMUSIC FLAT SIGNbNATURAL.bSHARP.aWEST SYRIAC CROSSaEAST..
aUNIVERSAL RECYCLING SYMBOLaRECYCLING SYMBOL FOR TYPE-1 PLASTICSdTYPE-2.dTYPE-3.dTYPE-4.dTYPE-5.
dTYPE-6.dTYPE-7.dGENERIC MATERIALSaBLACK UNIVERSAL RECYCLING SYMBOLaRECYCLED PAPER.
aPARTIALLY-RECYCLED..aPERMANENT PAPER SIGNaWHEELCHAIR SYMBOLaDIE FACE-1bFACE-2bFACE-3bFACE-4
bFACE-5bFACE-6aWHITE CIRCLE WITH DOT RIGHTdTWO DOTSaBLACK CIRCLE WITH WHITE DOT RIGHT
dTWO WHITE DOTSaMONOGRAM FOR YANGcYINaDIGRAM FOR GREATER YANGcLESSER YINdYANGcGREATER YIN
aWHITE FLAGaBLACK.aHAMMER AND PICKaANCHORaCROSSED SWORDSaSTAFF OF AESCULAPIUSaSCALESaALEMBIC
aFLOWERaGEARaSTAFF OF HERMESaATOM SYMBOLaFLEUR-DE-LISaOUTLINED WHITE STAR
aTHREE LINES CONVERGING RIGHTdLEFTaWARNING SIGNaHIGH VOLTAGE.aDOUBLED FEMALE.bMALE.
aINTERLOCKED FEMALE AND..aMALE AND FEMALE.bWITH STROKE.dAND MALE AND FEMALE.
aVERTICAL MALE WITH STROKE.aHORIZONTAL....aMEDIUM WHITE CIRCLEbBLACK.bSMALL WHITE.aMARRIAGE SYMBOL
aDIVORCE.aUNMARRIED PARTNERSHIP.aCOFFINaFUNERAL URNaNEUTERaCERESaPALLASaJUNOaVESTAaCHIRON
aBLACK MOON LILITHaSEXTILEaSEMISEXTILEaQUINCUNXaSESQUIQUADRATEaSOCCER BALLaBASEBALLaSQUARED KEY
aWHITE DRAUGHTS MANcKINGaBLACK DRAUGHTS MANcKINGaSNOWMAN WITHOUT SNOWaSUN BEHIND CLOUDaRAIN
aBLACK SNOWMANaTHUNDER CLOUD AND RAINaTURNED WHITE SHOGI PIECEbBLACK..aWHITE DIAMOND IN SQUARE
aCROSSING LANESaDISABLED CARaOPHIUCHUSaPICKaCAR SLIDINGaHELMET WITH WHITE CROSS
aCIRCLED CROSSING LANESaCHAINSaNO ENTRYaALTERNATE ONE-WAY LEFT WAY TRAFFICaBLACK TWO-WAY...
aWHITE....aBLACK LEFT LANE MERGEaWHITE...aDRIVE SLOW SIGNaHEAVY WHITE DOWN-POINTING TRIANGLE
aLEFT CLOSED ENTRYaSQUARED SALTIREaFALLING DIAGONAL IN WHITE CIRCLE IN BLACK SQUAREaBLACK TRUCK
aRESTRICTED LEFT ENTRY-1cENTRY-2aASTRONOMICAL SYMBOL FOR URANUS
aHEAVY CIRCLE WITH STROKE AND TWO DOTS ABOVEaPENTAGRAMaRIGHT-HANDED INTERLACED.aLEFT-HANDED..
aINVERTED.aBLACK CROSS ON SHIELDaSHINTO SHRINEaCHURCHaCASTLEaHISTORIC SITEaGEAR WITHOUT HUB
bWITH HANDLESaMAP SYMBOL FOR LIGHTHOUSEaMOUNTAINaUMBRELLA ON GROUNDaFOUNTAINaFLAG IN HOLEaFERRY
aSAILBOATaSQUARE FOUR CORNERSaSKIERaICE SKATEaPERSON WITH BALLaTENTaJAPANESE BANK SYMBOL
aHEADSTONE GRAVEYARD.aFUEL PUMPaCUP ON BLACK SQUAREaWHITE FLAG WITH HORIZONTAL MIDDLE BLACK STRIPE
aBLACK SAFETY SCISSORSaUPPER BLADE.aBLACK.aLOWER BLADE.aWHITE.bHEAVY CHECK MARK
aTELEPHONE LOCATION SIGNaTAPE DRIVEaAIRPLANEaENVELOPEaRAISED FISTbHANDaVICTORY.aWRITING.
aLOWER RIGHT PENCILa.aUPPER RIGHT.aWHITE NIBaBLACK.aCHECK MARKaHEAVY..aMULTIPLICATION XaHEAVY..
aBALLOT.aHEAVY..aOUTLINED GREEK CROSSaHEAVY..aOPEN CENTRE.aHEAVY...aLATIN.aSHADOWED WHITE..
aOUTLINED..aMALTESE.aSTAR OF DAVIDaFOUR TEARDROP-SPOKED ASTERISKbBALLOON-SPOKED.aHEAVY...
aFOUR CLUB-SPOKED.aBLACK FOUR POINTED STARaWHITE...aSPARKLESaSTRESS OUTLINED WHITE STARaCIRCLED..
aOPEN CENTRE BLACK.aBLACK CENTRE WHITE.aOUTLINED BLACK.aHEAVY...aPINWHEEL.aSHADOWED WHITE.
aHEAVY ASTERISKaOPEN CENTRE.aEIGHT SPOKED.bPOINTED BLACK STARcPINWHEEL.aSIX POINTED BLACK.
aEIGHT POINTED RECTILINEAR..aHEAVY.....aTWELVE POINTED..aSIXTEEN POINTED ASTERISKaTEARDROP-SPOKED.
aOPEN CENTRE..aHEAVY..aSIX PETALLED BLACK AND WHITE FLORETTEaBLACK.aWHITE.
aEIGHT PETALLED OUTLINED BLACK.aCIRCLED OPEN CENTRE EIGHT POINTED STAR
aHEAVY TEARDROP-SPOKED PINWHEEL ASTERISKaSNOWFLAKEaTIGHT TRIFOLIATE.aHEAVY CHEVRON.aSPARKLEaHEAVY.
aBALLOON-SPOKED ASTERISKaEIGHT TEARDROP-SPOKED PROPELLER.aHEAVY....aCROSS MARK
aSHADOWED WHITE CIRCLEaNEGATIVE SQUARED CROSS MARKaLOWER RIGHT DROP-SHADOWED WHITE SQUARE
aUPPER....aLOWER RIGHT SHADOWED..aUPPER....aBLACK QUESTION MARK ORNAMENTaWHITE...bEXCLAMATION..
aBLACK DIAMOND MINUS WHITE XaHEAVY EXCLAMATION MARK SYMBOLaLIGHT VERTICAL BARaMEDIUM..aHEAVY..
bSINGLE TURNED COMMA QUOTATION MARK ORNAMENTc....bDOUBLE TURNED....c....bLOW SINGLE....cDOUBLE....
aCURVED STEM PARAGRAPH SIGN.aHEAVY EXCLAMATION MARK.bHEART...bBLACK HEART
aROTATED HEAVY BLACK HEART BULLETaFLORAL HEARTaROTATED FLORAL HEART BULLET
aMEDIUM LEFT PARENTHESIS ORNAMENTbRIGHT..bFLATTENED LEFT..cRIGHT..bLEFT-POINTING ANGLE BRACKET.
bRIGHT-POINTING...aHEAVY LEFT-POINTING ANGLE QUOTATION MARK.bRIGHT-POINTING....
bLEFT-POINTING ANGLE BRACKET.bRIGHT-POINTING...aLIGHT LEFT TORTOISE SHELL..bRIGHT....
aMEDIUM LEFT CURLY..bRIGHT...aDINGBAT NEGATIVE CIRCLED DIGIT ONEeTWOeTHREEeFOUReFIVEeSIXeSEVEN
eEIGHTeNINEdNUMBER TENbCIRCLED SANS-SERIF DIGIT ONEeTWOeTHREEeFOUReFIVEeSIXeSEVENeEIGHTeNINE
dNUMBER TENbNEGATIVE CIRCLED SANS-SERIF DIGIT ONEfTWOfTHREEfFOURfFIVEfSIXfSEVENfEIGHTfNINE
eNUMBER TENaHEAVY WIDE-HEADED RIGHTWARDS ARROWbPLUS SIGNbMINUS.bDIVISION.bSOUTH EAST ARROW
bRIGHTWARDS.bNORTH EAST.aDRAFTING POINT RIGHTWARDS.aHEAVY ROUND-TIPPED..aTRIANGLE-HEADED..
aHEAVY...aDASHED...aHEAVY....aBLACK..aTHREE-D TOP-LIGHTED RIGHTWARDS ARROWHEADbBOTTOM-LIGHTED..
aBLACK..aHEAVY BLACK CURVED DOWNWARDS AND RIGHTWARDS ARROWdUPWARDS...aSQUAT BLACK..
aHEAVY CONCAVE-POINTED...aRIGHT-SHADED WHITE..aLEFT-SHADED...aBACK-TILTED SHADOWED...
aFRONT-TILTED....aHEAVY LOWER RIGHT-SHADOWED...bUPPER....aNOTCHED LOWER....aCURLY LOOP
aNOTCHED UPPER RIGHT-SHADOWED WHITE RIGHTWARDS ARROWaCIRCLED HEAVY...aWHITE-FEATHERED..
aBLACK-FEATHERED SOUTH EAST.bRIGHTWARDS.bNORTH EAST.aHEAVY BLACK-FEATHERED SOUTH..cRIGHTWARDS.
cNORTH EAST.aTEARDROP-BARBED RIGHTWARDS.aHEAVY TEARDROP-SHANKED..aWEDGE-TAILED..aHEAVY...
aOPEN-OUTLINED..aDOUBLE CURLY LOOPaTHREE DIMENSIONAL ANGLE
aWHITE TRIANGLE CONTAINING SMALL WHITE TRIANGLEaPERPENDICULARaOPEN SUBSETbSUPERSET
aLEFT S-SHAPED BAG DELIMITERaRIGHT...aOR WITH DOT INSIDEaREVERSE SOLIDUS PRECEDING SUBSET
aSUPERSET PRECEDING SOLIDUSaVERTICAL BAR WITH HORIZONTAL STROKEaMATHEMATICAL RISING DIAGONAL
aLONG DIVISIONaMATHEMATICAL FALLING DIAGONALaSQUARED LOGICAL ANDcORaWHITE DIAMOND WITH CENTRED DOT
aAND WITH.aELEMENT OF OPENING UPWARDSaLOWER RIGHT CORNER WITH DOTaUPPER LEFT...aLEFT OUTER JOIN
aRIGHT..aFULL..aLARGE UP TACKbDOWN.aLEFT AND RIGHT DOUBLE TURNSTILEdTACKbMULTIMAPaLONG RIGHT TACK
bLEFT.aUP TACK WITH CIRCLE ABOVEaLOZENGE DIVIDED BY HORIZONTAL RULEaWHITE CONCAVE-SIDED DIAMOND
dWITH LEFTWARDS TICKeRIGHTWARDS.bSQUARE WITH LEFTWARDS.dRIGHTWARDS.
aMATHEMATICAL LEFT WHITE SQUARE BRACKETbRIGHT...bLEFT ANGLE.bRIGHT..bLEFT DOUBLE..bRIGHT...
bLEFT WHITE TORTOISE SHELL.bRIGHT....bLEFT FLATTENED PARENTHESISbRIGHT..aUPWARDS QUADRUPLE ARROW
aDOWNWARDS..aANTICLOCKWISE GAPPED CIRCLE.aCLOCKWISE...aRIGHT ARROW WITH CIRCLED PLUS
aLONG LEFTWARDS ARROWbRIGHTWARDS.bLEFT RIGHT.bLEFTWARDS DOUBLE.bRIGHTWARDS..bLEFT RIGHT..
bLEFTWARDS ARROW FROM BARbRIGHTWARDS...bLEFTWARDS DOUBLE...bRIGHTWARDS....cSQUIGGLE ARROW
aBRAILLE PATTERN BLANKcDOTS-1cDOTS-2cDOTS-12cDOTS-3cDOTS-13cDOTS-23cDOTS-123cDOTS-4cDOTS-14
cDOTS-24cDOTS-124cDOTS-34cDOTS-134cDOTS-234cDOTS-1234cDOTS-5cDOTS-15cDOTS-25cDOTS-125cDOTS-35
cDOTS-135cDOTS-235cDOTS-1235cDOTS-45cDOTS-145cDOTS-245cDOTS-1245cDOTS-345cDOTS-1345cDOTS-2345
cDOTS-12345cDOTS-6cDOTS-16cDOTS-26cDOTS-126cDOTS-36cDOTS-136cDOTS-236cDOTS-1236cDOTS-46cDOTS-146
cDOTS-246cDOTS-1246cDOTS-346cDOTS-1346cDOTS-2346cDOTS-12346cDOTS-56cDOTS-156cDOTS-256cDOTS-1256
cDOTS-356cDOTS-1356cDOTS-2356cDOTS-12356cDOTS-456cDOTS-1456cDOTS-2456cDOTS-12456cDOTS-3456
cDOTS-13456cDOTS-23456cDOTS-123456cDOTS-7cDOTS-17cDOTS-27cDOTS-127cDOTS-37cDOTS-137cDOTS-237
cDOTS-1237cDOTS-47cDOTS-147cDOTS-247cDOTS-1247cDOTS-347cDOTS-1347cDOTS-2347cDOTS-12347cDOTS-57
cDOTS-157cDOTS-257cDOTS-1257cDOTS-357cDOTS-1357cDOTS-2357cDOTS-12357cDOTS-457cDOTS-1457cDOTS-2457
cDOTS-12457cDOTS-3457cDOTS-13457cDOTS-23457cDOTS-123457cDOTS-67cDOTS-167cDOTS-267cDOTS-1267
cDOTS-367cDOTS-1367cDOTS-2367cDOTS-12367cDOTS-467cDOTS-1467cDOTS-2467cDOTS-12467cDOTS-3467
cDOTS-13467cDOTS-23467cDOTS-123467cDOTS-567cDOTS-1567cDOTS-2567cDOTS-12567cDOTS-3567cDOTS-13567
cDOTS-23567cDOTS-123567cDOTS-4567cDOTS-14567cDOTS-24567cDOTS-124567cDOTS-34567cDOTS-134567
cDOTS-234567cDOTS-1234567cDOTS-8cDOTS-18cDOTS-28cDOTS-128cDOTS-38cDOTS-138cDOTS-238cDOTS-1238
cDOTS-48cDOTS-148cDOTS-248cDOTS-1248cDOTS-348cDOTS-1348cDOTS-2348cDOTS-12348cDOTS-58cDOTS-158
cDOTS-258cDOTS-1258cDOTS-358cDOTS-1358cDOTS-2358cDOTS-12358cDOTS-458cDOTS-1458cDOTS-2458
cDOTS-12458cDOTS-3458cDOTS-13458cDOTS-23458cDOTS-123458cDOTS-68cDOTS-168cDOTS-268cDOTS-1268
cDOTS-368cDOTS-1368cDOTS-2368cDOTS-12368cDOTS-468cDOTS-1468cDOTS-2468cDOTS-12468cDOTS-3468
cDOTS-13468cDOTS-23468cDOTS-123468cDOTS-568cDOTS-1568cDOTS-2568cDOTS-12568cDOTS-3568cDOTS-13568
cDOTS-23568cDOTS-123568cDOTS-4568cDOTS-14568cDOTS-24568cDOTS-124568cDOTS-34568cDOTS-134568
cDOTS-234568cDOTS-1234568cDOTS-78cDOTS-178cDOTS-278cDOTS-1278cDOTS-378cDOTS-1378cDOTS-2378
cDOTS-12378cDOTS-478cDOTS-1478cDOTS-2478cDOTS-12478cDOTS-3478cDOTS-13478cDOTS-23478cDOTS-123478
cDOTS-578cDOTS-1578cDOTS-2578cDOTS-12578cDOTS-3578cDOTS-13578cDOTS-23578cDOTS-123578cDOTS-4578
cDOTS-14578cDOTS-24578cDOTS-124578cDOTS-34578cDOTS-134578cDOTS-234578cDOTS-1234578cDOTS-678
cDOTS-1678cDOTS-2678cDOTS-12678cDOTS-3678cDOTS-13678cDOTS-23678cDOTS-123678cDOTS-4678cDOTS-14678
cDOTS-24678cDOTS-124678cDOTS-34678cDOTS-134678cDOTS-234678cDOTS-1234678cDOTS-5678cDOTS-15678
cDOTS-25678cDOTS-125678cDOTS-35678cDOTS-135678cDOTS-235678cDOTS-1235678cDOTS-45678cDOTS-145678
cDOTS-245678cDOTS-1245678cDOTS-345678cDOTS-1345678cDOTS-2345678cDOTS-12345678
aRIGHTWARDS TWO-HEADED ARROW WITH VERTICAL STROKEeDOUBLE..aLEFTWARDS DOUBLE ARROW WITH..
aRIGHTWARDS.....aLEFT RIGHT.....aRIGHTWARDS TWO-HEADED ARROW FROM BARaLEFTWARDS DOUBLE...
aRIGHTWARDS....aDOWNWARDS ARROW WITH HORIZONTAL STROKEaUPWARDS....bTRIPLE ARROWaDOWNWARDS..
aLEFTWARDS DOUBLE DASH.aRIGHTWARDS...aLEFTWARDS TRIPLE..aRIGHTWARDS...bTWO-HEADED...
bARROW WITH DOTTED STEMaUPWARDS ARROW TO BARaDOWNWARDS...
aRIGHTWARDS ARROW WITH TAIL WITH VERTICAL STROKEfDOUBLE..bTWO-HEADED ARROW WITH TAIL
fWITH VERTICAL STROKEgDOUBLE..aLEFTWARDS ARROW-TAILaRIGHTWARDS.aLEFTWARDS DOUBLE.aRIGHTWARDS..
aLEFTWARDS ARROW TO BLACK DIAMONDaRIGHTWARDS....aLEFTWARDS ARROW FROM BAR...aRIGHTWARDS......
aNORTH WEST AND SOUTH EAST ARROWbEAST AND SOUTH WEST.bWEST ARROW WITH HOOKbEAST...aSOUTH....
bWEST...aNORTH WEST ARROW AND NORTH EAST ARROWbEAST ARROW AND SOUTH..
aSOUTH EAST ARROW AND SOUTH WEST.bWEST ARROW AND NORTH..aRISING DIAGONAL CROSSING FALLING DIAGONAL
aFALLING DIAGONAL CROSSING RISING.aSOUTH EAST ARROW CROSSING NORTH EAST ARROW
aNORTH EAST ARROW CROSSING SOUTH..aFALLING DIAGONAL CROSSING NORTH..
aRISING DIAGONAL CROSSING SOUTH..aNORTH EAST ARROW CROSSING NORTH WEST.
bWEST ARROW CROSSING NORTH EAST.aWAVE ARROW POINTING DIRECTLY RIGHT
aARROW POINTING RIGHTWARDS THEN CURVING UPWARDSfDOWNWARDScDOWNWARDS THEN CURVING LEFTWARDS
fRIGHTWARDSaRIGHT-SIDE ARC CLOCKWISE ARROWaLEFT-SIDE ARC ANTICLOCKWISE.aTOP...aBOTTOM...
aTOP ARC CLOCKWISE ARROW WITH MINUScANTICLOCKWISE ARROW WITH PLUS
aLOWER RIGHT SEMICIRCULAR CLOCKWISE ARROWbLEFT SEMICIRCULAR ANTICLOCKWISE.
aANTICLOCKWISE CLOSED CIRCLE.aCLOCKWISE...aRIGHTWARDS ARROW ABOVE SHORT LEFTWARDS.
aLEFTWARDS ARROW ABOVE SHORT RIGHTWARDS.aSHORT RIGHTWARDS ARROW ABOVE LEFTWARDS.
aRIGHTWARDS ARROW WITH PLUS BELOWaLEFTWARDS....aRIGHTWARDS ARROW THROUGH X
aLEFT RIGHT ARROW THROUGH SMALL CIRCLEaUPWARDS TWO-HEADED ARROW FROM..
aLEFT BARB UP RIGHT BARB DOWN HARPOONcDOWN RIGHT BARB UP.aUP BARB RIGHT DOWN BARB LEFT.
cLEFT DOWN BARB RIGHT.aLEFT BARB UP RIGHT BARB UP.aUP BARB RIGHT DOWN BARB RIGHT.
aLEFT BARB DOWN RIGHT BARB DOWN.aUP BARB LEFT DOWN BARB LEFT.
aLEFTWARDS HARPOON WITH BARB UP TO BARaRIGHTWARDS......aUPWARDS HARPOON WITH BARB RIGHT..
aDOWNWARDS......aLEFTWARDS HARPOON WITH BARB DOWN..aRIGHTWARDS......
aUPWARDS HARPOON WITH BARB LEFT..aDOWNWARDS......aLEFTWARDS HARPOON WITH BARB UP FROM.
aRIGHTWARDS......aUPWARDS HARPOON WITH BARB RIGHT..aDOWNWARDS......
aLEFTWARDS HARPOON WITH BARB DOWN..aRIGHTWARDS......aUPWARDS HARPOON WITH BARB LEFT..
aDOWNWARDS......aLEFTWARDS HARPOON WITH BARB UP ABOVE LEFTWARDS HARPOON WITH BARB DOWN
aUPWARDS HARPOON WITH BARB LEFT BESIDE UPWARDS HARPOON WITH BARB RIGHT
aRIGHTWARDS HARPOON WITH BARB UP ABOVE RIGHTWARDS HARPOON WITH BARB DOWN
aDOWNWARDS HARPOON WITH BARB LEFT BESIDE DOWNWARDS HARPOON WITH BARB RIGHT
aLEFTWARDS HARPOON WITH BARB UP ABOVE RIGHTWARDS HARPOON WITH BARB UP
eDOWN ABOVE RIGHTWARDS HARPOON WITH BARB DOWN
aRIGHTWARDS HARPOON WITH BARB UP ABOVE LEFTWARDS HARPOON WITH BARB UP
eDOWN ABOVE LEFTWARDS HARPOON WITH BARB DOWNaLEFTWARDS HARPOON WITH BARB UP ABOVE LONG DASH
eDOWN BELOW..aRIGHTWARDS HARPOON WITH BARB UP ABOVE..eDOWN BELOW..
aUPWARDS HARPOON WITH BARB LEFT BESIDE DOWNWARDS HARPOON WITH BARB RIGHT
aDOWNWARDS HARPOON WITH BARB LEFT BESIDE UPWARDS....aRIGHT DOUBLE ARROW WITH ROUNDED HEAD
aEQUALS SIGN ABOVE RIGHTWARDS ARROWaTILDE OPERATOR...aLEFTWARDS ARROW ABOVE TILDE OPERATOR
aRIGHTWARDS....dALMOST EQUAL TOaLESS-THAN ABOVE LEFTWARDS ARROWaLEFTWARDS ARROW THROUGH LESS-THAN
aGREATER-THAN ABOVE RIGHTWARDS ARROWaSUBSET...aLEFTWARDS ARROW THROUGH SUBSET
aSUPERSET ABOVE LEFTWARDS ARROWaLEFT FISH TAILaRIGHT..aUP..aDOWN..aTRIPLE VERTICAL BAR DELIMITER
aZ NOTATION SPOTcTYPE COLONaLEFT WHITE CURLY BRACKETaRIGHT...aLEFT WHITE PARENTHESISaRIGHT..
aZ NOTATION LEFT IMAGE BRACKETcRIGHT..cLEFT BINDING.cRIGHT..aLEFT SQUARE BRACKET WITH UNDERBAR
aRIGHT....aLEFT SQUARE BRACKET WITH TICK IN TOP CORNERaRIGHT SQUARE BRACKET WITH TICK IN BOTTOM.
aLEFT.......aRIGHT SQUARE BRACKET WITH TICK IN TOP.aLEFT ANGLE BRACKET WITH DOTaRIGHT....
aLEFT ARC LESS-THAN BRACKETaRIGHT ARC GREATER-THAN.aDOUBLE LEFT...bRIGHT ARC LESS-THAN.
aLEFT BLACK TORTOISE SHELL.aRIGHT....aDOTTED FENCEaVERTICAL ZIGZAG LINE
aMEASURED ANGLE OPENING LEFTaRIGHT ANGLE VARIANT WITH SQUAREaMEASURED RIGHT ANGLE WITH DOT
aANGLE WITH S INSIDEaACUTE ANGLEaSPHERICAL ANGLE OPENING LEFTdUPaTURNED ANGLEaREVERSED.
aANGLE WITH UNDERBARaREVERSED...aOBLIQUE ANGLE OPENING UPdDOWN
aMEASURED ANGLE WITH OPEN ARM ENDING IN ARROW POINTING UP AND RIGHTlLEFTjDOWN AND RIGHTlLEFT
jRIGHT AND UPjLEFT..jRIGHT AND DOWNjLEFT..aREVERSED EMPTY SETaEMPTY SET WITH OVERBAR
dSMALL CIRCLE ABOVEdRIGHT ARROW.dLEFT..aCIRCLE WITH HORIZONTAL BARaCIRCLED VERTICAL.bPARALLEL
bREVERSE SOLIDUSbPERPENDICULAR
aCIRCLE DIVIDED BY HORIZONTAL BAR AND TOP HALF DIVIDED BY VERTICAL BARbWITH SUPERIMPOSED X
aCIRCLED ANTICLOCKWISE-ROTATED DIVISION SIGNaUP ARROW THROUGH CIRCLEaCIRCLED WHITE BULLETb.
bLESS-THANbGREATER-THANaCIRCLE WITH SMALL CIRCLE TO THE RIGHTcTWO HORIZONTAL STROKES...
aSQUARED RISING DIAGONAL SLASHbFALLING..bASTERISKbSMALL CIRCLEbSQUAREaTWO JOINED SQUARES
aTRIANGLE WITH DOT ABOVEcUNDERBARaS IN TRIANGLEaTRIANGLE WITH SERIFS AT BOTTOM
aRIGHT TRIANGLE ABOVE LEFT TRIANGLEaLEFT TRIANGLE BESIDE VERTICAL BAR
aVERTICAL BAR BESIDE RIGHT TRIANGLEaBOWTIE WITH LEFT HALF BLACKcRIGHT..aBLACK BOWTIE
aTIMES WITH LEFT HALF BLACKcRIGHT..aWHITE HOURGLASSaBLACK.aLEFT WIGGLY FENCEaRIGHT..aLEFT DOUBLE..
aRIGHT...aINCOMPLETE INFINITYaTIE OVER.aINFINITY NEGATED WITH VERTICAL BARaDOUBLE-ENDED MULTIMAP
aSQUARE WITH CONTOURED OUTLINEaINCREASES ASaSHUFFLE PRODUCTaEQUALS SIGN AND SLANTED PARALLEL
fWITH TILDE ABOVEaIDENTICAL TO AND SLANTED PARALLELaGLEICH STARKaTHERMODYNAMIC
aDOWN-POINTING TRIANGLE WITH LEFT HALF BLACKdRIGHT..aBLACK DIAMOND WITH DOWN ARROWbLOZENGE
aWHITE CIRCLE WITH DOWN ARROWaBLACK....aERROR-BARRED WHITE SQUAREbBLACK.bWHITE DIAMONDbBLACK.
bWHITE CIRCLEbBLACK.aRULE-DELAYEDaREVERSE SOLIDUS OPERATORaSOLIDUS WITH OVERBAR
aREVERSE SOLIDUS WITH HORIZONTAL STROKEaBIG SOLIDUSbREVERSE.aDOUBLE PLUSaTRIPLE.
aLEFT-POINTING CURVED ANGLE BRACKETaRIGHT-POINTING...aTINYaMINYaN-ARY CIRCLED DOT OPERATORcPLUS.
cTIMES.bUNION OPERATOR WITH DOTePLUSbSQUARE INTERSECTION OPERATORcUNION.aTWO LOGICAL AND.cOR.
aN-ARY TIMES.aMODULO TWO SUMaSUMMATION WITH INTEGRALaQUADRUPLE INTEGRAL OPERATOR
aFINITE PART INTEGRALaINTEGRAL WITH DOUBLE STROKEbAVERAGE WITH SLASHaCIRCULATION FUNCTION
aANTICLOCKWISE INTEGRATIONaLINE INTEGRATION WITH RECTANGULAR PATH AROUND POLEdSEMICIRCULAR...
cNOT INCLUDING THE.aINTEGRAL AROUND A POINT OPERATORaQUATERNION INTEGRAL.
aINTEGRAL WITH LEFTWARDS ARROW WITH HOOKcTIMES SIGNcINTERSECTIONcUNIONcOVERBARcUNDERBARaJOIN
aLARGE LEFT TRIANGLE OPERATORaZ NOTATION SCHEMA COMPOSITIONdPIPINGdPROJECTION
aPLUS SIGN WITH SMALL CIRCLE ABOVEdCIRCUMFLEX ACCENT.dTILDE.dDOT BELOWdTILDE.dSUBSCRIPT TWO
dBLACK TRIANGLEaMINUS SIGN WITH COMMA ABOVEdDOT BELOWdFALLING DOTSdRISING.
aPLUS SIGN IN LEFT HALF CIRCLEdRIGHT..aVECTOR OR CROSS PRODUCTaMULTIPLICATION SIGN WITH DOT ABOVE
dUNDERBARaSEMIDIRECT PRODUCT WITH BOTTOM CLOSEDaSMASH PRODUCT
aMULTIPLICATION SIGN IN LEFT HALF CIRCLEdRIGHT..
aCIRCLED MULTIPLICATION SIGN WITH CIRCUMFLEX ACCENTaMULTIPLICATION SIGN IN DOUBLE CIRCLE
aCIRCLED DIVISION SIGNaPLUS SIGN IN TRIANGLEaMINUS...aMULTIPLICATION...aINTERIOR PRODUCT
aRIGHTHAND..aZ NOTATION RELATIONAL COMPOSITIONaAMALGAMATION OR COPRODUCTaINTERSECTION WITH DOT
aUNION WITH MINUS SIGNcOVERBARaINTERSECTION..cLOGICAL ANDaUNION WITH LOGICAL ORbABOVE INTERSECTION
aINTERSECTION ABOVE UNIONaUNION ABOVE BAR ABOVE INTERSECTIONaINTERSECTION ABOVE BAR ABOVE UNION
aUNION BESIDE AND JOINED WITH.aINTERSECTION BESIDE AND JOINED WITH INTERSECTION
aCLOSED UNION WITH SERIFSbINTERSECTION..aDOUBLE SQUARE INTERSECTIONcUNION
aCLOSED UNION WITH SERIFS AND SMASH PRODUCTaLOGICAL AND WITH DOT ABOVEbOR...aDOUBLE LOGICAL ANDcOR
aTWO INTERSECTING LOGICAL ANDdORaSLOPING LARGE.cANDaLOGICAL OR OVERLAPPING LOGICAL.
bAND WITH MIDDLE STEMbOR...bAND WITH HORIZONTAL DASHbOR...bAND WITH DOUBLE OVERBARdUNDERBAR
dDOUBLE.aSMALL VEE WITH.aLOGICAL OR WITH DOUBLE OVERBAReUNDERBARaZ NOTATION DOMAIN ANTIRESTRICTION
cRANGE.aEQUALS SIGN WITH DOT BELOWaIDENTICAL WITH DOT ABOVE
aTRIPLE HORIZONTAL BAR WITH DOUBLE VERTICAL STROKEeTRIPLE..aTILDE OPERATOR WITH DOT ABOVE
dRISING DOTSaSIMILAR MINUS SIMILARaCONGRUENT WITH DOT ABOVEaEQUALS WITH ASTERISK
aALMOST EQUAL TO WITH CIRCUMFLEX ACCENTaAPPROXIMATELY EQUAL OR EQUAL TO
aEQUALS SIGN ABOVE PLUS SIGNaPLUS SIGN ABOVE EQUALS.aEQUALS SIGN ABOVE TILDE OPERATOR
aDOUBLE COLON EQUALaTWO CONSECUTIVE EQUALS SIGNSaTHREE...
aEQUALS SIGN WITH TWO DOTS ABOVE AND TWO DOTS BELOWaEQUIVALENT WITH FOUR DOTS ABOVE
aLESS-THAN WITH CIRCLE INSIDEaGREATER-THAN...aLESS-THAN WITH QUESTION MARK ABOVEaGREATER-THAN....
aLESS-THAN OR SLANTED EQUAL TOaGREATER-THAN....aLESS-THAN OR SLANTED EQUAL TO WITH DOT INSIDE
aGREATER-THAN.......aLESS-THAN OR SLANTED EQUAL TO WITH DOT ABOVEaGREATER-THAN.......
aLESS-THAN OR SLANTED EQUAL TO WITH DOT ABOVE RIGHT
aGREATER-THAN OR SLANTED EQUAL TO WITH DOT ABOVE LEFTaLESS-THAN OR APPROXIMATEaGREATER-THAN..
aLESS-THAN AND SINGLE-LINE NOT EQUAL TOaGREATER-THAN.....aLESS-THAN AND NOT APPROXIMATE
aGREATER-THAN...aLESS-THAN ABOVE DOUBLE-LINE EQUAL ABOVE GREATER-THAN
aGREATER-THAN ABOVE DOUBLE-LINE EQUAL ABOVE LESS-THANaLESS-THAN ABOVE SIMILAR OR EQUAL
aGREATER-THAN....aLESS-THAN ABOVE SIMILAR ABOVE GREATER-THAN
aGREATER-THAN ABOVE SIMILAR ABOVE LESS-THANaLESS-THAN ABOVE GREATER-THAN ABOVE DOUBLE-LINE EQUAL
aGREATER-THAN ABOVE LESS-THAN...aLESS-THAN ABOVE SLANTED EQUAL ABOVE GREATER-THAN ABOVE SLANTED.
aGREATER-THAN ABOVE SLANTED EQUAL ABOVE LESS-THAN...aSLANTED EQUAL TO OR LESS-THANeGREATER-THAN
eLESS-THAN WITH DOT INSIDEeGREATER-THAN...aDOUBLE-LINE EQUAL TO OR LESS-THANeGREATER-THAN
bSLANTED EQUAL TO OR LESS-THANfGREATER-THANaSIMILAR OR LESS-THANcGREATER-THAN
bABOVE LESS-THAN ABOVE EQUALS SIGNcGREATER-THAN...aDOUBLE NESTED LESS-THANcGREATER-THAN
cLESS-THAN WITH UNDERBARaGREATER-THAN OVERLAPPING LESS-THANbBESIDE.aLESS-THAN CLOSED BY CURVE
aGREATER-THAN...aLESS-THAN CLOSED BY CURVE ABOVE SLANTED EQUALaGREATER-THAN......aSMALLER THAN
aLARGER.aSMALLER THAN OR EQUAL TOaLARGER....aEQUALS SIGN WITH BUMPY ABOVE
aPRECEDES ABOVE SINGLE-LINE EQUALS SIGNaSUCCEEDS....aPRECEDES ABOVE SINGLE-LINE NOT EQUAL TO
aSUCCEEDS.....aPRECEDES ABOVE EQUALS SIGNaSUCCEEDS...aPRECEDES ABOVE NOT EQUAL TOaSUCCEEDS....
aPRECEDES ABOVE ALMOST..aSUCCEEDS....aPRECEDES ABOVE NOT...aSUCCEEDS.....aDOUBLE PRECEDESbSUCCEEDS
aSUBSET WITH DOTaSUPERSET..aSUBSET WITH PLUS SIGN BELOWaSUPERSET....aSUBSET WITH MULTIPLICATION..
aSUPERSET....aSUBSET OF OR EQUAL TO WITH DOT ABOVEaSUPERSET.......aSUBSET OF ABOVE EQUALS SIGN
aSUPERSET....aSUBSET OF ABOVE TILDE OPERATORaSUPERSET....aSUBSET OF ABOVE ALMOST EQUAL TO
aSUPERSET.....aSUBSET OF ABOVE NOT..aSUPERSET.....aSQUARE LEFT OPEN BOX OPERATORbRIGHT...
aCLOSED SUBSETbSUPERSETbSUBSET OR EQUAL TObSUPERSET...aSUBSET ABOVE SUPERSETaSUPERSET ABOVE SUBSET
aSUBSET..aSUPERSET ABOVE SUPERSETbBESIDE SUBSETcAND JOINED BY DASH WITH.
aELEMENT OF OPENING DOWNWARDSaPITCHFORK WITH TEE TOPaTRANSVERSAL INTERSECTIONaFORKINGaNONFORKING
aSHORT LEFT TACKbDOWN.bUP.aPERPENDICULAR WITH SaVERTICAL BAR TRIPLE RIGHT TURNSTILE
aDOUBLE VERTICAL BAR LEFT.aVERTICAL BAR DOUBLE..aDOUBLE.....
aLONG DASH FROM LEFT MEMBER OF DOUBLE VERTICALaSHORT DOWN TACK WITH OVERBARbUP TACK WITH UNDERBAR
dABOVE SHORT DOWN TACKaDOUBLE..bUP.bSTROKE NOT SIGNaREVERSED....
aDOES NOT DIVIDE WITH REVERSED NEGATION SLASHaVERTICAL LINE WITH CIRCLE ABOVEeBELOWaDOWN TACK...
aPARALLEL WITH HORIZONTAL STROKEcTILDE OPERATORaTRIPLE VERTICAL BAR BINARY RELATION
dWITH HORIZONTAL STROKEbCOLON OPERATORbNESTED LESS-THANcGREATER-THAN
aDOUBLE-LINE SLANTED LESS-THAN OR EQUAL TOcGREATER-THAN...aTRIPLE SOLIDUS BINARY RELATION
aLARGE TRIPLE VERTICAL BAR OPERATORaDOUBLE SOLIDUS.aWHITE VERTICAL BARaN-ARY...
aNORTH EAST WHITE ARROWbWEST..aSOUTH EAST..bWEST..aLEFT RIGHT..aLEFTWARDS BLACK.aUPWARDS..
aDOWNWARDS..aNORTH EAST..bWEST..aSOUTH EAST..bWEST..aLEFT RIGHT..aUP DOWN..
aRIGHTWARDS ARROW WITH TIP DOWNWARDSeUPWARDSaLEFTWARDS ARROW WITH TIP DOWNWARDSeUPWARDS
aSQUARE WITH TOP HALF BLACKcBOTTOM..cUPPER RIGHT DIAGONAL..cLOWER LEFT...aDIAMOND WITH LEFT..
cRIGHT..cTOP..cBOTTOM..aDOTTED SQUAREaBLACK LARGE.aWHITE..aBLACK VERY SMALL.aWHITE...
aBLACK PENTAGONaWHITE.bHEXAGONaBLACK.aHORIZONTAL..aBLACK LARGE CIRCLEbMEDIUM DIAMONDaWHITE..
aBLACK MEDIUM LOZENGEaWHITE..aBLACK SMALL DIAMONDcLOZENGEaWHITE..aBLACK HORIZONTAL ELLIPSEaWHITE..
aBLACK VERTICAL.aWHITE..aLEFT ARROW WITH SMALL CIRCLEaTHREE LEFTWARDS ARROWS
aLEFT ARROW WITH CIRCLED PLUSaLONG LEFTWARDS SQUIGGLE ARROW
aLEFTWARDS TWO-HEADED ARROW WITH VERTICAL STROKEeDOUBLE..dFROM BARcTRIPLE DASH ARROW
bARROW WITH DOTTED STEMdTAIL WITH VERTICAL STROKEfDOUBLE..bTWO-HEADED ARROW WITH TAIL
fWITH VERTICAL STROKEgDOUBLE..bARROW THROUGH XaWAVE ARROW POINTING DIRECTLY LEFT
aEQUALS SIGN ABOVE LEFTWARDS ARROWaREVERSE TILDE OPERATOR...
aLEFTWARDS ARROW ABOVE REVERSE ALMOST EQUAL TOaRIGHTWARDS ARROW THROUGH GREATER-THANdSUPERSET
aLEFTWARDS QUADRUPLE ARROWaRIGHTWARDS..aREVERSE TILDE OPERATOR ABOVE RIGHTWARDS.
aRIGHTWARDS ARROW ABOVE REVERSE ALMOST EQUAL TOaTILDE OPERATOR ABOVE LEFTWARDS ARROW
aLEFTWARDS ARROW ABOVE ALMOST EQUAL TOdREVERSE TILDE OPERATORaRIGHTWARDS.....
aDOWNWARDS TRIANGLE-HEADED ZIGZAG ARROWaSHORT SLANTED NORTH.bBACKSLANTED SOUTH.aWHITE MEDIUM STAR
aBLACK SMALL.aWHITE..aBLACK RIGHT-POINTING PENTAGONaWHITE..aHEAVY LARGE CIRCLE
bOVAL WITH OVAL INSIDEbCIRCLE WITH CIRCLE.cbCIRCLED SALTIREaSLANTED NORTH ARROW WITH HOOKED HEAD
aBACKSLANTED SOUTH ARROW WITH HOOKED TAILaSLANTED NORTH ARROW WITH HORIZONTAL.
aBACKSLANTED SOUTH....aBENT ARROW POINTING DOWNWARDS THEN NORTH EASTaSHORT.......
aLEFTWARDS TRIANGLE-HEADED ARROWaUPWARDS..aRIGHTWARDS..aDOWNWARDS..aLEFT RIGHT..aUP DOWN..
aNORTH WEST..bEAST..aSOUTH...bWEST..aLEFTWARDS TRIANGLE-HEADED DASHED.aUPWARDS...aRIGHTWARDS...
aDOWNWARDS...aCLOCKWISE TRIANGLE-HEADED OPEN CIRCLE.aANTICLOCKWISE....
aLEFTWARDS TRIANGLE-HEADED ARROW TO BARaUPWARDS....aRIGHTWARDS....aDOWNWARDS....
2B76aNORTH WEST....bEAST....aSOUTH.....bWEST....
aLEFTWARDS TRIANGLE-HEADED ARROW WITH DOUBLE HORIZONTAL STROKEaUPWARDS......aRIGHTWARDS......
aDOWNWARDS......aHORIZONTAL TAB KEYaVERTICAL..
aLEFTWARDS TRIANGLE-HEADED ARROW OVER RIGHTWARDS TRIANGLE-HEADED ARROW
aUPWARDS TRIANGLE-HEADED ARROW LEFTWARDS OF DOWNWARDS..
aRIGHTWARDS TRIANGLE-HEADED ARROW OVER LEFTWARDS..
aDOWNWARDS TRIANGLE-HEADED ARROW LEFTWARDS OF UPWARDS..aLEFTWARDS TRIANGLE-HEADED PAIRED ARROWS
aUPWARDS...aRIGHTWARDS...aDOWNWARDS...aLEFTWARDS BLACK CIRCLED WHITE ARROWaUPWARDS....
aRIGHTWARDS....aDOWNWARDS....aANTICLOCKWISE TRIANGLE-HEADED RIGHT U-SHAPED.cBOTTOM..cLEFT..cTOP..
aRETURN LEFTbRIGHTaNEWLINE LEFTbRIGHTaFOUR CORNER ARROWS CIRCLING ANTICLOCKWISE
aRIGHTWARDS BLACK ARROW
2B97aSYMBOL FOR TYPE A ELECTRONICSaTHREE-D TOP-LIGHTED LEFTWARDS EQUILATERAL ARROWHEAD
bRIGHT-LIGHTED UPWARDS..bTOP-LIGHTED RIGHTWARDS..bLEFT-LIGHTED DOWNWARDS..aBLACK LEFTWARDS..
bUPWARDS..bRIGHTWARDS..bDOWNWARDS..aDOWNWARDS TRIANGLE-HEADED ARROW WITH LONG TIP LEFTWARDS
gRIGHTWARDSaUPWARDS TRIANGLE-HEADED ARROW WITH LONG TIP LEFTWARDSgRIGHTWARDS
aLEFTWARDS TRIANGLE-HEADED ARROW WITH LONG TIP UPWARDSaRIGHTWARDS......
aLEFTWARDS TRIANGLE-HEADED ARROW WITH LONG TIP DOWNWARDSaRIGHTWARDS......
aBLACK CURVED DOWNWARDS AND LEFTWARDS ARROWeRIGHTWARDS.cUPWARDS AND LEFTWARDS.eRIGHTWARDS.
cLEFTWARDS AND UPWARDS.cRIGHTWARDS...cLEFTWARDS AND DOWNWARDS.cRIGHTWARDS...
aRIBBON ARROW DOWN LEFTdRIGHTcUP LEFTdRIGHTcLEFT UPcRIGHT.cLEFT DOWNcRIGHT.
aUPWARDS WHITE ARROW FROM BAR WITH HORIZONTAL BARaUP ARROWHEAD IN A RECTANGLE BOX
aOVERLAPPING WHITE SQUAREScAND BLACK.b..aBALLOT BOX WITH LIGHT XaCIRCLED.bBOLD.
aBLACK SQUARE CENTREDbDIAMOND.aTURNED BLACK PENTAGONaHORIZONTAL BLACK OCTAGONa..
bMEDIUM UP-POINTING TRIANGLE CENTREDcDOWN-POINTING..cLEFT-POINTING..cRIGHT-POINTING..
aNEPTUNE FORM TWOaTOP HALF BLACK CIRCLEaBOTTOM...aLIGHT FOUR POINTED BLACK CUSPaROTATED.....
aWHITE FOUR POINTED.aROTATED....aSQUARE POSITION INDICATORaUNCERTAINTY SIGNaGROUP MARK
aPLUTO FORM TWOcTHREEcFOURcFIVEaTRANSPLUTOaPROSERPINAaASTRAEAaHYGIEAaPHOLUSaNESSUS
aWHITE MOON SELENAaBLACK DIAMOND ON CROSSaTRUE LIGHT MOON ARTAaCUPIDOaHADESaZEUSaKRONOSaAPOLLON
aADMETOSaVULCANUSaPOSEIDONaLEFT HALF BLACK STARaRIGHT...aSTAR WITH LEFT HALF BLACKcRIGHT..
aLEFTWARDS TWO-HEADED ARROW WITH TRIANGLE ARROWHEADSaUPWARDS.....aRIGHTWARDS.....aDOWNWARDS.....
aERIS FORM ONEcTWOaSEDNAaRUSSIAN ASTROLOGICAL SYMBOL VIGINTILEdNOVILEdQUINTILEdBINOVILEdSENTAGON
dTREDECILEaEQUALS SIGN WITH INFINITY BELOWaUNITED SYMBOLaSEPARATED.aDOUBLED.aPASSED.
aREVERSED RIGHT ANGLEaHELLSCHREIBER PAUSE SYMBOLaGLAGOLITIC CAPITAL LETTER AZUdBUKYdVEDEdGLAGOLI
dDOBROdYESTUdZHIVETEdDZELOdZEMLJAdIZHEdINITIAL.dIdDJERVIdKAKOdLJUDIJEdMYSLITEdNASHIdONUdPOKOJI
dRITSIdSLOVOdTVRIDOdUKUdFRITUdHERUdOTUdPEdSHTAdTSIdCHRIVIdSHAdYERUdYERIdYATIdSPIDERY HAdYU
dSMALL YUSfWITH TAILdYOdIOTATED SMALL YUSdBIG.dIOTATED..dFITAdIZHITSAdSHTAPICdTROKUTASTI A
dLATINATE MYSLITEdCAUDATE CHRIVIbSMALL LETTER AZUdBUKYdVEDEdGLAGOLIdDOBROdYESTUdZHIVETEdDZELO
dZEMLJAdIZHEdINITIAL.dIdDJERVIdKAKOdLJUDIJEdMYSLITEdNASHIdONUdPOKOJIdRITSIdSLOVOdTVRIDOdUKUdFRITU
dHERUdOTUdPEdSHTAdTSIdCHRIVIdSHAdYERUdYERIdYATIdSPIDERY HAdYUdSMALL YUSfWITH TAILdYO
dIOTATED SMALL YUSdBIG.dIOTATED..dFITAdIZHITSAdSHTAPICdTROKUTASTI AdLATINATE MYSLITE
dCAUDATE CHRIVIaLATIN CAPITAL LETTER L WITH DOUBLE BARbSMALL.....
bCAPITAL LETTER L WITH MIDDLE TILDEdP WITH STROKEdR WITH TAILbSMALL LETTER A WITH STROKE
dT WITH DIAGONAL.bCAPITAL LETTER H WITH DESCENDERbSMALL....bCAPITAL LETTER K..bSMALL....
bCAPITAL LETTER Z..bSMALL....bCAPITAL LETTER ALPHAdM WITH HOOKdTURNED AeALPHA
bSMALL LETTER V WITH RIGHT HOOKbCAPITAL LETTER W WITH.bSMALL....dV WITH CURLbCAPITAL LETTER HALF H
bSMALL...dTAILLESS PHIdE WITH NOTCHdTURNED R WITH TAILdO WITH LOW RING INSIDE
bLETTER SMALL CAPITAL TURNED EbSUBSCRIPT SMALL LETTER JaMODIFIER LETTER CAPITAL V
aLATIN CAPITAL LETTER S WITH SWASH TAILdZ...aCOPTIC CAPITAL LETTER ALFAbSMALL..
bCAPITAL LETTER VIDAbSMALL..bCAPITAL LETTER GAMMAbSMALL..bCAPITAL LETTER DALDAbSMALL..
bCAPITAL LETTER EIEbSMALL..bCAPITAL LETTER SOUbSMALL..bCAPITAL LETTER ZATAbSMALL..
bCAPITAL LETTER HATEbSMALL..bCAPITAL LETTER THETHEbSMALL..bCAPITAL LETTER IAUDAbSMALL..
bCAPITAL LETTER KAPAbSMALL..bCAPITAL LETTER LAULAbSMALL..bCAPITAL LETTER MIbSMALL..
bCAPITAL LETTER NIbSMALL..bCAPITAL LETTER KSIbSMALL..bCAPITAL LETTER ObSMALL..bCAPITAL LETTER PI
bSMALL..bCAPITAL LETTER RObSMALL..bCAPITAL LETTER SIMAbSMALL..bCAPITAL LETTER TAUbSMALL..
bCAPITAL LETTER UAbSMALL..bCAPITAL LETTER FIbSMALL..bCAPITAL LETTER KHIbSMALL..bCAPITAL LETTER PSI
bSMALL..bCAPITAL LETTER OOUbSMALL..bCAPITAL LETTER DIALECT-P ALEFbSMALL...
bCAPITAL LETTER OLD COPTIC AINbSMALL....bCAPITAL LETTER CRYPTOGRAMMIC EIEbSMALL...
bCAPITAL LETTER DIALECT-P KAPAbSMALL...bCAPITAL LETTER DIALECT-P NIbSMALL...
bCAPITAL LETTER CRYPTOGRAMMIC.bSMALL...bCAPITAL LETTER OLD COPTIC OOUbSMALL....
bCAPITAL LETTER SAMPIbSMALL..bCAPITAL LETTER CROSSED SHEIbSMALL...bCAPITAL LETTER OLD COPTIC.
bSMALL....bCAPITAL LETTER OLD COPTIC ESHbSMALL....bCAPITAL LETTER AKHMIMIC KHEIbSMALL...
bCAPITAL LETTER DIALECT-P HORIbSMALL...bCAPITAL LETTER OLD COPTIC.bSMALL....
bCAPITAL LETTER OLD COPTIC HAbSMALL....bCAPITAL LETTER L-SHAPED.bSMALL...
bCAPITAL LETTER OLD COPTIC HEIbSMALL....bCAPITAL LETTER OLD COPTIC HATbSMALL....
bCAPITAL LETTER OLD COPTIC GANGIAbSMALL....bCAPITAL LETTER OLD COPTIC DJAbSMALL....
bCAPITAL LETTER OLD COPTIC SHIMAbSMALL....bCAPITAL LETTER OLD NUBIAN.bSMALL....
bCAPITAL LETTER OLD NUBIAN NGIbSMALL....bCAPITAL LETTER OLD NUBIAN NYIbSMALL....
bCAPITAL LETTER OLD NUBIAN WAUbSMALL....bSYMBOL KAIcMI ROcPI.cSTAUROScTAU ROcKHI.cSHIMA SIMA
bCAPITAL LETTER CRYPTOGRAMMIC SHEIbSMALL...bCAPITAL LETTER CRYPTOGRAMMIC GANGIAbSMALL...
bCOMBINING NI ABOVEcSPIRITUS ASPERdLENISbCAPITAL LETTER BOHAIRIC KHEIbSMALL...
2CF9bOLD NUBIAN FULL STOPdDIRECT QUESTION MARKdINDIRECT..dVERSE DIVIDERbFRACTION ONE HALF
bFULL STOPbMORPHOLOGICAL DIVIDERaGEORGIAN SMALL LETTER ANdBANdGANdDONdENdVINdZENdTANdINdKANdLAS
dMANdNARdONdPARdZHARdRAEdSANdTARdUNdPHARdKHARdGHANdQARdSHINdCHINdCANdJILdCILdCHARdXANdJHANdHAEdHE
dHIEdWEdHARdHOE
2D27dYN
2D2DdAEN
2D30aTIFINAGH LETTER YAcYABcYABHcYAGcYAGHHcBERBER ACADEMY YAJc.cYADcYADHcYADDcYADDHcYEYcYAFcYAK
cTUAREG.cYAKHHcYAHcBERBER ACADEMY.cTUAREG.cYAHHcYAAcYAKHcTUAREG.cYAQcTUAREG.cYIcYAZHcAHAGGAR.
cTUAREG.cYALcYAMcYANcTUAREG YAGNdYANGcYAPcYUcYARcYARRcYAGHcTUAREG.cAYER.cYAScYASScYASHcYATcYATH
cYACHcYATTcYAVcYAWcYAYcYAZcTAWELLEMET.cYAZZcYEcYO
2D6FbMODIFIER LETTER LABIALIZATION MARKbSEPARATOR.
2D7FbCONSONANT JOINERaETHIOPIC SYLLABLE LOAcMOAcROAcSOAcSHOAcBOAcTOAcCOAcNOAcNYOAcGLOTTAL OAcZOA
cDOAcDDOAcJOAcTHOAcCHOAcPHOAcPOAcGGWAcGGWIcGGWEEcGGWE
2DA0cSSAcSSUcSSIcSSAAcSSEEcSSEcSSO
2DA8cCCAcCCUcCCIcCCAAcCCEEcCCEcCCO
2DB0cZZAcZZUcZZIcZZAAcZZEEcZZEcZZO
2DB8cCCHAcCCHUcCCHIcCCHAAcCCHEEcCCHEcCCHO
2DC0cQYAcQYUcQYIcQYAAcQYEEcQYEcQYO
2DC8cKYAcKYUcKYIcKYAAcKYEEcKYEcKYO
2DD0cXYAcXYUcXYIcXYAAcXYEEcXYEcXYO
2DD8cGYAcGYUcGYIcGYAAcGYEEcGYEcGYO
2DE0aCOMBINING CYRILLIC LETTER BEdVEdGHEdDEdZHEdZEdKAdELdEMdENdOdPEdERdESdTEdHAdTSEdCHEdSHAdSHCHA
dFITAdES-TEdAdIEdDJERVdMONOGRAPH UKdYATdYUdIOTIFIED AdLITTLE YUSdBIG.dIOTIFIED..
aRIGHT ANGLE SUBSTITUTION MARKERcDOTTED..aLEFT SUBSTITUTION BRACKETaRIGHT..aLEFT DOTTED..aRIGHT...
aRAISED INTERPOLATION MARKERbDOTTED..aDOTTED TRANSPOSITION.aLEFT TRANSPOSITION BRACKETaRIGHT..
aRAISED SQUAREaLEFT RAISED OMISSION BRACKETaRIGHT...aEDITORIAL CORONISaPARAGRAPHOSaFORKED.
aREVERSED..aHYPODIASTOLEaDOTTED OBELOSaDOWNWARDS ANCORAaUPWARDS.aDOTTED RIGHT-POINTING ANGLE
aDOUBLE OBLIQUE HYPHENaINVERTED INTERROBANGaPALM BRANCHaHYPHEN WITH DIAERESIS
aTILDE WITH RING ABOVEaLEFT LOW PARAPHRASE BRACKETaRIGHT...aTILDE WITH DOT ABOVEdBELOW
aLEFT VERTICAL BAR WITH QUILLaRIGHT....aTOP LEFT HALF BRACKETbRIGHT..aBOTTOM LEFT..bRIGHT..
aLEFT SIDEWAYS U.aRIGHT...aLEFT DOUBLE PARENTHESISaRIGHT..aTWO DOTS OVER ONE DOT PUNCTUATION
aONE DOT OVER TWO DOTS.aSQUARED FOUR DOT.aFIVE DOT MARKaREVERSED QUESTION.aVERTICAL TILDE
aRING POINTaWORD SEPARATOR MIDDLE DOTaTURNED COMMAaRAISED DOTbCOMMAaTURNED SEMICOLON
aDAGGER WITH LEFT GUARDcRIGHT.aTURNED DAGGERaTOP HALF SECTION SIGNaTWO-EM DASHaTHREE-EM.
aSTENOGRAPHIC FULL STOPaVERTICAL SIX DOTSaWIGGLY VERTICAL LINEaCAPITULUMaDOUBLE HYPHEN
aREVERSED COMMAaDOUBLE LOW-REVERSED-9 QUOTATION MARKaDASH WITH LEFT UPTURNaDOUBLE SUSPENSION MARK
aINVERTED LOW KAVYKAdWITH KAVYKA ABOVEaLOW KAVYKAcWITH DOTaDOUBLE STACKED COMMAaDOTTED SOLIDUS
aTRIPLE DAGGERaMEDIEVAL COMMAaPARAGRAPHUS MARKaPUNCTUS ELEVATUS.aCORNISH VERSE DIVIDER
aCROSS PATTY WITH RIGHT CROSSBARdLEFT.aTIRONIAN SIGN CAPITAL ETaMEDIEVAL EXCLAMATION MARK
bQUESTION.aLEFT SQUARE BRACKET WITH STROKEaRIGHT....aLEFT SQUARE BRACKET WITH DOUBLE.aRIGHT.....
aTOP HALF LEFT PARENTHESIScRIGHT.aBOTTOM HALF LEFT.cRIGHT.aOBLIQUE HYPHEN
2E80aCJK RADICAL REPEATcCLIFFcSECOND ONEdTWOdTHREEcPERSONcBOXcTABLEcKNIFE ONEdTWOcDIVINATIONcSEAL
cSMALL ONEdTWOcLAME ONEdTWOdTHREEdFOURcSNAKEcTHREADcSNOUT ONEdTWOcHEART ONEdTWOcHANDcRAP
2E9BcCHOKEcSUNcMOONcDEATHcMOTHERcCIVILIANcWATER ONEdTWOcFIREcPAW ONEdTWO
cSIMPLIFIED HALF TREE TRUNKcCOWcDOGcJADEcBOLT OF CLOTHcEYEcSPIRIT ONEdTWOcBAMBOOcSILK
cC-SIMPLIFIED.cNET ONEdTWOdTHREEdFOURcMESHcSHEEPcRAMcEWEcOLDcBRUSH ONEdTWOcMEATcMORTARcGRASS ONE
dTWOdTHREEcTIGERcCLOTHEScWEST ONEdTWOcC-SIMPLIFIED SEEcSIMPLIFIED HORNc.cC-SIMPLIFIED SPEECHdSHELL
cFOOTcC-SIMPLIFIED CARTcSIMPLIFIED WALKcWALK ONEdTWOcCITYcC-SIMPLIFIED GOLDcLONG ONEdTWO
cC-SIMPLIFIED LONGdGATEcMOUND ONEdTWOcRAINcBLUEcC-SIMPLIFIED TANNED LEATHERdLEAFdWINDdFLYcEAT ONE
dTWOdTHREEcC-SIMPLIFIED EATcHEADcC-SIMPLIFIED HORSEcBONEcGHOSTcC-SIMPLIFIED FISHdBIRDdSALT
cSIMPLIFIED WHEATdYELLOWcC-SIMPLIFIED FROGcJ-SIMPLIFIED EVENcC-SIMPLIFIED.cJ-SIMPLIFIED TOOTH
cC-SIMPLIFIED.cJ-SIMPLIFIED DRAGONcC-SIMPLIFIED.cTURTLEcJ-SIMPLIFIED.cC-SIMPLIFIED.
2F00aKANGXI RADICAL ONEcLINEcDOTcSLASHcSECONDcHOOKcTWOcLIDcMANcLEGScENTERcEIGHTcDOWN BOXcCOVERcICE
cTABLEcOPEN BOXcKNIFEcPOWERcWRAPcSPOONcRIGHT OPEN BOXcHIDING ENCLOSUREcTENcDIVINATIONcSEALcCLIFF
cPRIVATEcAGAINcMOUTHcENCLOSUREcEARTHcSCHOLARcGOdSLOWLYcEVENINGcBIGcWOMANcCHILDcROOFcINCHcSMALL
cLAMEcCORPSEcSPROUTcMOUNTAINcRIVERcWORKcONESELFcTURBANcDRYcSHORT THREADcDOTTED CLIFFcLONG STRIDE
cTWO HANDScSHOOTcBOWcSNOUTcBRISTLEcSTEPcHEARTcHALBERDcDOORcHANDcBRANCHcRAPcSCRIPTcDIPPERcAXE
cSQUAREcNOTcSUNcSAYcMOONcTREEcLACKcSTOPcDEATHcWEAPONcDO NOTcCOMPAREcFURcCLANcSTEAMcWATERcFIREcCLAW
cFATHERcDOUBLE XcHALF TREE TRUNKcSLICEcFANGcCOWcDOGcPROFOUNDcJADEcMELONcTILEcSWEETcLIFEcUSEcFIELD
cBOLT OF CLOTHcSICKNESScDOTTED TENTcWHITEcSKINcDISHcEYEcSPEARcARROWcSTONEcSPIRITcTRACKcGRAINcCAVE
cSTANDcBAMBOOcRICEcSILKcJARcNETcSHEEPcFEATHERcOLDcANDcPLOWcEARcBRUSHcMEATcMINISTERcSELFcARRIVE
cMORTARcTONGUEcOPPOSEcBOATcSTOPPINGcCOLORcGRASScTIGERcINSECTcBLOODcWALK ENCLOSUREcCLOTHEScWESTcSEE
cHORNcSPEECHcVALLEYcBEANcPIGcBADGERcSHELLcREDcRUNcFOOTcBODYcCARTcBITTERcMORNINGcWALKcCITYcWINE
cDISTINGUISHcVILLAGEcGOLDcLONGcGATEcMOUNDcSLAVEcSHORT TAILED BIRDcRAINcBLUEcWRONGcFACEcLEATHER
cTANNED.cLEEKcSOUNDcLEAFcWINDcFLYcEATcHEADcFRAGRANTcHORSEcBONEcTALLcHAIRcFIGHTcSACRIFICIAL WINE
cCAULDRONcGHOSTcFISHcBIRDcSALTcDEERcWHEATcHEMPcYELLOWcMILLETcBLACKcEMBROIDERYcFROGcTRIPODcDRUMcRAT
cNOSEcEVENcTOOTHcDRAGONcTURTLEcFLUTE
2FF0aIDEOGRAPHIC DESCRIPTION CHARACTER LEFT TO RIGHTdABOVE TO BELOWdLEFT TO MIDDLE AND RIGHT
dABOVE TO MIDDLE AND BELOWdFULL SURROUNDdSURROUND FROM ABOVEfBELOWfLEFTfUPPER.gRIGHTfLOWER LEFT
dOVERLAID"

/-- Names in the scripts of East Asia, supplements and presentation forms. -/
def easternNames : String := "
3000aIDEOGRAPHIC SPACEbCOMMAbFULL STOPaDITTO MARKaJAPANESE INDUSTRIAL STANDARD SYMBOL
aIDEOGRAPHIC ITERATION MARKbCLOSING.bNUMBER ZEROaLEFT ANGLE BRACKETaRIGHT..aLEFT DOUBLE..aRIGHT...
aLEFT CORNER.aRIGHT..aLEFT WHITE..aRIGHT...aLEFT BLACK LENTICULAR.aRIGHT...aPOSTAL MARKaGETA.
aLEFT TORTOISE SHELL BRACKETaRIGHT...aLEFT WHITE LENTICULAR.aRIGHT...aLEFT WHITE TORTOISE SHELL.
aRIGHT....aLEFT WHITE SQUARE.aRIGHT...aWAVE DASHaREVERSED DOUBLE PRIME QUOTATION MARKa....aLOW....
aPOSTAL MARK FACEaHANGZHOU NUMERAL ONEcTWOcTHREEcFOURcFIVEcSIXcSEVENcEIGHTcNINE
aIDEOGRAPHIC LEVEL TONE MARKbRISING..bDEPARTING..bENTERING..aHANGUL SINGLE DOT..bDOUBLE...
aWAVY DASHaVERTICAL KANA REPEAT MARKdWITH VOICED SOUND.dMARK UPPER HALFdWITH VOICED SOUND...
dMARK LOWER.aCIRCLED POSTAL MARKaIDEOGRAPHIC TELEGRAPH LINE FEED SEPARATOR SYMBOL
aHANGZHOU NUMERAL TENcTWENTYcTHIRTYaVERTICAL IDEOGRAPHIC ITERATION MARKaMASU.aPART ALTERNATION.
aIDEOGRAPHIC VARIATION INDICATORbHALF FILL SPACE
3041aHIRAGANA LETTER SMALL Ac.cSMALL Ic.cSMALL Uc.cSMALL Ec.cSMALL Oc.cKAcGAcKIcGIcKUcGUcKEcGEcKO
cGOcSAcZAcSIcZIcSUcZUcSEcZEcSOcZOcTAcDAcTIcDIcSMALL TUc.cDUcTEcDEcTOcDOcNAcNIcNUcNEcNOcHAcBAcPAcHI
cBIcPIcHUcBUcPUcHEcBEcPEcHOcBOcPOcMAcMIcMUcMEcMOcSMALL YAc.cSMALL YUc.cSMALL YOc.cRAcRIcRUcREcRO
cSMALL WAc.cWIcWEcWOcNcVUcSMALL KAdKE
3099aCOMBINING KATAKANA-HIRAGANA VOICED SOUND MARKcSEMI-VOICED..aKATAKANA-HIRAGANA VOICED..
bSEMI-VOICED..aHIRAGANA ITERATION.bVOICED..bDIGRAPH YORIaKATAKANA-HIRAGANA DOUBLE HYPHEN
aKATAKANA LETTER SMALL Ac.cSMALL Ic.cSMALL Uc.cSMALL Ec.cSMALL Oc.cKAcGAcKIcGIcKUcGUcKEcGEcKOcGO
cSAcZAcSIcZIcSUcZUcSEcZEcSOcZOcTAcDAcTIcDIcSMALL TUc.cDUcTEcDEcTOcDOcNAcNIcNUcNEcNOcHAcBAcPAcHIcBI
cPIcHUcBUcPUcHEcBEcPEcHOcBOcPOcMAcMIcMUcMEcMOcSMALL YAc.cSMALL YUc.cSMALL YOc.cRAcRIcRUcREcRO
cSMALL WAc.cWIcWEcWOcNcVUcSMALL KAdKEcVAcVIcVEcVObMIDDLE DOT
aKATAKANA-HIRAGANA PROLONGED SOUND MARKaKATAKANA ITERATION.bVOICED..bDIGRAPH KOTO
3105aBOPOMOFO LETTER BcPcMcFcDcTcNcLcGcKcHcJcQcXcZHcCHcSHcRcZcCcScAcOcEcEHcAIcEIcAUcOUcANcENcANG
cENGcERcIcUcIUcVcNGcGNcIHcO WITH DOT ABOVEcNN
3131aHANGUL LETTER KIYEOKcSSANGKIYEOKcKIYEOK-SIOScNIEUNcNIEUN-CIEUCcNIEUN-HIEUHcTIKEUTcSSANGTIKEUT
cRIEULcRIEUL-KIYEOKcRIEUL-MIEUMcRIEUL-PIEUPcRIEUL-SIOScRIEUL-THIEUTHcRIEUL-PHIEUPHcRIEUL-HIEUH
cMIEUMcPIEUPcSSANGPIEUPcPIEUP-SIOScSIOScSSANGSIOScIEUNGcCIEUCcSSANGCIEUCcCHIEUCHcKHIEUKHcTHIEUTH
cPHIEUPHcHIEUHcAcAEcYAcYAEcEOcEcYEOcYEcOcWAcWAEcOEcYOcUcWEOcWEcWIcYUcEUcYIcIbFILLER
bLETTER SSANGNIEUNcNIEUN-TIKEUTcNIEUN-SIOScNIEUN-PANSIOScRIEUL-KIYEOK-SIOScRIEUL-TIKEUT
cRIEUL-PIEUP-SIOScRIEUL-PANSIOScRIEUL-YEORINHIEUHcMIEUM-PIEUPcMIEUM-SIOScMIEUM-PANSIOS
cKAPYEOUNMIEUMcPIEUP-KIYEOKcPIEUP-TIKEUTcPIEUP-SIOS-KIYEOKcPIEUP-SIOS-TIKEUTcPIEUP-CIEUC
cPIEUP-THIEUTHcKAPYEOUNPIEUPcKAPYEOUNSSANGPIEUPcSIOS-KIYEOKcSIOS-NIEUNcSIOS-TIKEUTcSIOS-PIEUP
cSIOS-CIEUCcPANSIOScSSANGIEUNGcYESIEUNGcYESIEUNG-SIOScYESIEUNG-PANSIOScKAPYEOUNPHIEUPHcSSANGHIEUH
cYEORINHIEUHcYO-YAcYO-YAEcYO-IcYU-YEOcYU-YEcYU-IcARAEAcARAEAE
3190aIDEOGRAPHIC ANNOTATION LINKING MARKcREVERSE.cONE.cTWO.cTHREE.cFOUR.cTOP.cMIDDLE.cBOTTOM.
cFIRST.cSECOND.cTHIRD.cFOURTH.cHEAVEN.cEARTH.cMAN.aBOPOMOFO LETTER BUcZIcJIcGUcEEcENNcOOcONNcIR
cANNcINNcUNNcIMcNGGcAINNcAUNNcAMcOMcONGcINNNbFINAL LETTER PdTdKdHbLETTER GHcLHcZYbFINAL LETTER G
bLETTER GWcKWcOEcAHaCJK STROKE TcWGcXGcBXGcSWcHZZcHZGcHPcHZWGcSZWGcHZTcHZZPcHPWGcHZWcHZZZcNcHcScP
cSPcDcHZcHGcSZcSWZcSTcSGcPDcPZcTNcSZZcSWGcHXWGcHZZZGcPGcQ
31F0aKATAKANA LETTER SMALL KUdSIdSUdTOdNUdHAdHIdHUdHEdHOdMUdRAdRIdRUdREdRO
aPARENTHESIZED HANGUL KIYEOKcNIEUNcTIKEUTcRIEULcMIEUMcPIEUPcSIOScIEUNGcCIEUCcCHIEUCHcKHIEUKH
cTHIEUTHcPHIEUPHcHIEUHcKIYEOK AcNIEUN.cTIKEUT.cRIEUL.cMIEUM.cPIEUP.cSIOS.cIEUNG.cCIEUC.cCHIEUCH.
cKHIEUKH.cTHIEUTH.cPHIEUPH.cHIEUH.cCIEUC UbKOREAN CHARACTER OJEONdO HU
3220bIDEOGRAPH ONEcTWOcTHREEcFOURcFIVEcSIXcSEVENcEIGHTcNINEcTENcMOONcFIREcWATERcWOODcMETALcEARTH
cSUNcSTOCKcHAVEcSOCIETYcNAMEcSPECIALcFINANCIALcCONGRATULATIONcLABORcREPRESENTcCALLcSTUDYcSUPERVISE
cENTERPRISEcRESOURCEcALLIANCEcFESTIVALcRESTcSELFcREACHaCIRCLED IDEOGRAPH QUESTIONcKINDERGARTEN
cSCHOOLcKOTObNUMBER TEN ON BLACK SQUAREcTWENTY...cTHIRTY...cFORTY...cFIFTY...cSIXTY...cSEVENTY...
cEIGHTY...aPARTNERSHIP SIGNaCIRCLED NUMBER TWENTY ONEdTWOdTHREEdFOURdFIVEdSIXdSEVENdEIGHTdNINE
cTHIRTYdONEdTWOdTHREEdFOURdFIVEbHANGUL KIYEOKcNIEUNcTIKEUTcRIEULcMIEUMcPIEUPcSIOScIEUNGcCIEUC
cCHIEUCHcKHIEUKHcTHIEUTHcPHIEUPHcHIEUHcKIYEOK AcNIEUN.cTIKEUT.cRIEUL.cMIEUM.cPIEUP.cSIOS.cIEUNG.
cCIEUC.cCHIEUCH.cKHIEUKH.cTHIEUTH.cPHIEUPH.cHIEUH.bKOREAN CHARACTER CHAMKOdJUEUIbHANGUL IEUNG U
aKOREAN STANDARD SYMBOLaCIRCLED IDEOGRAPH ONEcTWOcTHREEcFOURcFIVEcSIXcSEVENcEIGHTcNINEcTENcMOON
cFIREcWATERcWOODcMETALcEARTHcSUNcSTOCKcHAVEcSOCIETYcNAMEcSPECIALcFINANCIALcCONGRATULATIONcLABOR
cSECRETcMALEcFEMALEcSUITABLEcEXCELLENTcPRINTcATTENTIONcITEMcRESTcCOPYcCORRECTcHIGHcCENTREcLOWcLEFT
cRIGHTcMEDICINEcRELIGIONcSTUDYcSUPERVISEcENTERPRISEcRESOURCEcALLIANCEcNIGHTbNUMBER THIRTY SIX
dSEVENdEIGHTdNINEcFORTYdONEdTWOdTHREEdFOURdFIVEdSIXdSEVENdEIGHTdNINEcFIFTY
aIDEOGRAPHIC TELEGRAPH SYMBOL FOR JANUARYeFEBRUARYeMARCHeAPRILeMAYeJUNEeJULYeAUGUSTeSEPTEMBER
eOCTOBEReNOVEMBEReDECEMBERaSQUARE HGbERGbEVaLIMITED LIABILITY SIGNaCIRCLED KATAKANA AcIcUcEcOcKA
cKIcKUcKEcKOcSAcSIcSUcSEcSOcTAcTIcTUcTEcTOcNAcNIcNUcNEcNOcHAcHIcHUcHEcHOcMAcMIcMUcMEcMOcYAcYUcYO
cRAcRIcRUcREcROcWAcWIcWEcWOaSQUARE ERA NAME REIWAbAPAATObARUHUAbANPEAbAARUbININGUbINTIbUON
bESUKUUDObEEKAAbONSUbOOMUbKAIRIbKARATTObKARORIIbGARONbGANMAbGIGAbGINIIbKYURIIbGIRUDAAbKIRO
bKIROGURAMUbKIROMEETORUbKIROWATTObGURAMUbGURAMUTONbKURUZEIRObKUROONEbKEESUbKORUNAbKOOPObSAIKURU
bSANTIIMUbSIRINGUbSENTIbSENTObDAASUbDESIbDORUbTONbNANObNOTTObHAITUbPAASENTObPAATUbBAARERU
bPIASUTORUbPIKURUbPIKObBIRUbHUARADDObHUIITObBUSSYERUbHURANbHEKUTAARUbPESObPENIHIbHERUTUbPENSU
bPEEZIbBEETAbPOINTObBORUTObHONbPONDObHOORUbHOONbMAIKURObMAIRUbMAHHAbMARUKUbMANSYONbMIKURONbMIRI
bMIRIBAARUbMEGAbMEGATONbMEETORUbYAADObYAARUbYUANbRITTORUbRIRAbRUPIIbRUUBURUbREMUbRENTOGENbWATTO
aIDEOGRAPHIC TELEGRAPH SYMBOL FOR HOUR ZEROfONEfTWOfTHREEfFOURfFIVEfSIXfSEVENfEIGHTfNINEfTEN
fELEVENfTWELVEfTHIRTEENfFOURTEENfFIFTEENfSIXTEENfSEVENTEENfEIGHTEENfNINETEENfTWENTYfTWENTY-ONE
fTWENTY-TWOfTWENTY-THREEfTWENTY-FOURaSQUARE HPAbDAbAUbBARbOVbPCbDMcSQUAREDcCUBEDbIU
bERA NAME HEISEIdSYOUWAdTAISYOUdMEIZIbCORPORATIONbPA AMPSbNAbMU AbMAbKAbKBbMBbGBbCALbKCALbPFbNF
bMU FcGbMGbKGbHZbKHZbMHZbGHZbTHZbMU LbMLbDLbKLbFMbNMbMU MbMMbCMbKMbMM SQUAREDbCM.bM.bKM.bMM CUBED
bCM.bM.bKM.bM OVER SeSQUAREDbPAbKPAbMPAbGPAbRADcOVER SeSQUAREDbPSbNSbMU SbMSbPVbNVbMU VbMVbKV
bMV MEGAbPWbNWbMU WbMWbKWbMW MEGAbK OHMbM.bAMbBQbCCbCDbC OVER KGbCObDBbGYbHAbHPbINbKKbKM CAPITAL
bKTbLMbLNbLOGbLXbMB SMALLbMILbMOLbPHbPMbPPMbPRbSRbSVbWBbV OVER MbA..
aIDEOGRAPHIC TELEGRAPH SYMBOL FOR DAY ONEfTWOfTHREEfFOURfFIVEfSIXfSEVENfEIGHTfNINEfTENfELEVEN
fTWELVEfTHIRTEENfFOURTEENfFIFTEENfSIXTEENfSEVENTEENfEIGHTEENfNINETEENfTWENTYfTWENTY-ONEfTWENTY-TWO
fTWENTY-THREEfTWENTY-FOURfTWENTY-FIVEfTWENTY-SIXfTWENTY-SEVENfTWENTY-EIGHTfTWENTY-NINEfTHIRTY
fTHIRTY-ONEaSQUARE GAL
4DC0aHEXAGRAM FOR THE CREATIVE HEAVENdRECEPTIVE EARTHcDIFFICULTY AT THE BEGINNINGcYOUTHFUL FOLLY
cWAITINGcCONFLICTcTHE ARMYcHOLDING TOGETHERcSMALL TAMINGcTREADINGcPEACEcSTANDSTILLcFELLOWSHIP
cGREAT POSSESSIONcMODESTYcENTHUSIASMcFOLLOWINGcWORK ON THE DECAYEDcAPPROACHcCONTEMPLATION
cBITING THROUGHcGRACEcSPLITTING APARTcRETURNcINNOCENCEcGREAT TAMINGcMOUTH CORNERS
cGREAT PREPONDERANCEcTHE ABYSMAL WATERdCLINGING FIREcINFLUENCEcDURATIONcRETREATcGREAT POWER
cPROGRESScDARKENING OF THE LIGHTcTHE FAMILYcOPPOSITIONcOBSTRUCTIONcDELIVERANCEcDECREASEcINCREASE
cBREAKTHROUGHcCOMING TO MEETcGATHERING TOGETHERcPUSHING UPWARDcOPPRESSIONcTHE WELLcREVOLUTION
cTHE CAULDRONdAROUSING THUNDERdKEEPING STILL MOUNTAINcDEVELOPMENTcTHE MARRYING MAIDENcABUNDANCE
cTHE WANDERERdGENTLE WINDdJOYOUS LAKEcDISPERSIONcLIMITATIONcINNER TRUTHcSMALL PREPONDERANCE
cAFTER COMPLETIONcBEFORE.
A000aYI SYLLABLE ITcIXcIcIPcIETcIEXcIEcIEPcATcAXcAcAPcUOXcUOcUOPcOTcOXcOcOPcEXcEcWUcBITcBIXcBIcBIP
cBIETcBIEXcBIEcBIEPcBATcBAXcBAcBAPcBUOXcBUOcBUOPcBOTcBOXcBOcBOPcBEXcBEcBEPcBUTcBUXcBUcBUPcBURXcBUR
cBYTcBYXcBYcBYPcBYRXcBYRcPITcPIXcPIcPIPcPIEXcPIEcPIEPcPATcPAXcPAcPAPcPUOXcPUOcPUOPcPOTcPOXcPOcPOP
cPUTcPUXcPUcPUPcPURXcPURcPYTcPYXcPYcPYPcPYRXcPYRcBBITcBBIXcBBIcBBIPcBBIETcBBIEXcBBIEcBBIEPcBBAT
cBBAXcBBAcBBAPcBBUOXcBBUOcBBUOPcBBOTcBBOXcBBOcBBOPcBBEXcBBEcBBEPcBBUTcBBUXcBBUcBBUPcBBURXcBBUR
cBBYTcBBYXcBBYcBBYPcNBITcNBIXcNBIcNBIPcNBIEXcNBIEcNBIEPcNBATcNBAXcNBAcNBAPcNBOTcNBOXcNBOcNBOPcNBUT
cNBUXcNBUcNBUPcNBURXcNBURcNBYTcNBYXcNBYcNBYPcNBYRXcNBYRcHMITcHMIXcHMIcHMIPcHMIEXcHMIEcHMIEPcHMAT
cHMAXcHMAcHMAPcHMUOXcHMUOcHMUOPcHMOTcHMOXcHMOcHMOPcHMUTcHMUXcHMUcHMUPcHMURXcHMURcHMYXcHMYcHMYP
cHMYRXcHMYRcMITcMIXcMIcMIPcMIEXcMIEcMIEPcMATcMAXcMAcMAPcMUOTcMUOXcMUOcMUOPcMOTcMOXcMOcMOPcMEXcME
cMUTcMUXcMUcMUPcMURXcMURcMYTcMYXcMYcMYPcFITcFIXcFIcFIPcFATcFAXcFAcFAPcFOXcFOcFOPcFUTcFUXcFUcFUP
cFURXcFURcFYTcFYXcFYcFYPcVITcVIXcVIcVIPcVIETcVIEXcVIEcVIEPcVATcVAXcVAcVAPcVOTcVOXcVOcVOPcVEXcVEP
cVUTcVUXcVUcVUPcVURXcVURcVYTcVYXcVYcVYPcVYRXcVYRcDITcDIXcDIcDIPcDIEXcDIEcDIEPcDATcDAXcDAcDAPcDUOX
cDUOcDOTcDOXcDOcDOPcDEXcDEcDEPcDUTcDUXcDUcDUPcDURXcDURcTITcTIXcTIcTIPcTIEXcTIEcTIEPcTATcTAXcTAcTAP
cTUOTcTUOXcTUOcTUOPcTOTcTOXcTOcTOPcTEXcTEcTEPcTUTcTUXcTUcTUPcTURXcTURcDDITcDDIXcDDIcDDIPcDDIEX
cDDIEcDDIEPcDDATcDDAXcDDAcDDAPcDDUOXcDDUOcDDUOPcDDOTcDDOXcDDOcDDOPcDDEXcDDEcDDEPcDDUTcDDUXcDDU
cDDUPcDDURXcDDURcNDITcNDIXcNDIcNDIPcNDIEXcNDIEcNDATcNDAXcNDAcNDAPcNDOTcNDOXcNDOcNDOPcNDEXcNDEcNDEP
cNDUTcNDUXcNDUcNDUPcNDURXcNDURcHNITcHNIXcHNIcHNIPcHNIETcHNIEXcHNIEcHNIEPcHNATcHNAXcHNAcHNAPcHNUOX
cHNUOcHNOTcHNOXcHNOPcHNEXcHNEcHNEPcHNUTcNITcNIXcNIcNIPcNIEXcNIEcNIEPcNAXcNAcNAPcNUOXcNUOcNUOPcNOT
cNOXcNOcNOPcNEXcNEcNEPcNUTcNUXcNUcNUPcNURXcNURcHLITcHLIXcHLIcHLIPcHLIEXcHLIEcHLIEPcHLATcHLAXcHLA
cHLAPcHLUOXcHLUOcHLUOPcHLOXcHLOcHLOPcHLEXcHLEcHLEPcHLUTcHLUXcHLUcHLUPcHLURXcHLURcHLYTcHLYXcHLY
cHLYPcHLYRXcHLYRcLITcLIXcLIcLIPcLIETcLIEXcLIEcLIEPcLATcLAXcLAcLAPcLUOTcLUOXcLUOcLUOPcLOTcLOXcLO
cLOPcLEXcLEcLEPcLUTcLUXcLUcLUPcLURXcLURcLYTcLYXcLYcLYPcLYRXcLYRcGITcGIXcGIcGIPcGIETcGIEXcGIEcGIEP
cGATcGAXcGAcGAPcGUOTcGUOXcGUOcGUOPcGOTcGOXcGOcGOPcGETcGEXcGEcGEPcGUTcGUXcGUcGUPcGURXcGURcKITcKIX
cKIcKIPcKIEXcKIEcKIEPcKATcKAXcKAcKAPcKUOXcKUOcKUOPcKOTcKOXcKOcKOPcKETcKEXcKEcKEPcKUTcKUXcKUcKUP
cKURXcKURcGGITcGGIXcGGIcGGIEXcGGIEcGGIEPcGGATcGGAXcGGAcGGAPcGGUOTcGGUOXcGGUOcGGUOPcGGOTcGGOXcGGO
cGGOPcGGETcGGEXcGGEcGGEPcGGUTcGGUXcGGUcGGUPcGGURXcGGURcMGIEXcMGIEcMGATcMGAXcMGAcMGAPcMGUOXcMGUO
cMGUOPcMGOTcMGOXcMGOcMGOPcMGEXcMGEcMGEPcMGUTcMGUXcMGUcMGUPcMGURXcMGURcHXITcHXIXcHXIcHXIPcHXIET
cHXIEXcHXIEcHXIEPcHXATcHXAXcHXAcHXAPcHXUOTcHXUOXcHXUOcHXUOPcHXOTcHXOXcHXOcHXOPcHXEXcHXEcHXEPcNGIEX
cNGIEcNGIEPcNGATcNGAXcNGAcNGAPcNGUOTcNGUOXcNGUOcNGOTcNGOXcNGOcNGOPcNGEXcNGEcNGEPcHITcHIEXcHIEcHAT
cHAXcHAcHAPcHUOTcHUOXcHUOcHUOPcHOTcHOXcHOcHOPcHEXcHEcHEPcWATcWAXcWAcWAPcWUOXcWUOcWUOPcWOXcWOcWOP
cWEXcWEcWEPcZITcZIXcZIcZIPcZIEXcZIEcZIEPcZATcZAXcZAcZAPcZUOXcZUOcZUOPcZOTcZOXcZOcZOPcZEXcZEcZEP
cZUTcZUXcZUcZUPcZURXcZURcZYTcZYXcZYcZYPcZYRXcZYRcCITcCIXcCIcCIPcCIETcCIEXcCIEcCIEPcCATcCAXcCAcCAP
cCUOXcCUOcCUOPcCOTcCOXcCOcCOPcCEXcCEcCEPcCUTcCUXcCUcCUPcCURXcCURcCYTcCYXcCYcCYPcCYRXcCYRcZZITcZZIX
cZZIcZZIPcZZIETcZZIEXcZZIEcZZIEPcZZATcZZAXcZZAcZZAPcZZOXcZZOcZZOPcZZEXcZZEcZZEPcZZUXcZZUcZZUP
cZZURXcZZURcZZYTcZZYXcZZYcZZYPcZZYRXcZZYRcNZITcNZIXcNZIcNZIPcNZIEXcNZIEcNZIEPcNZATcNZAXcNZAcNZAP
cNZUOXcNZUOcNZOXcNZOPcNZEXcNZEcNZUXcNZUcNZUPcNZURXcNZURcNZYTcNZYXcNZYcNZYPcNZYRXcNZYRcSITcSIXcSI
cSIPcSIEXcSIEcSIEPcSATcSAXcSAcSAPcSUOXcSUOcSUOPcSOTcSOXcSOcSOPcSEXcSEcSEPcSUTcSUXcSUcSUPcSURXcSUR
cSYTcSYXcSYcSYPcSYRXcSYRcSSITcSSIXcSSIcSSIPcSSIEXcSSIEcSSIEPcSSATcSSAXcSSAcSSAPcSSOTcSSOXcSSOcSSOP
cSSEXcSSEcSSEPcSSUTcSSUXcSSUcSSUPcSSYTcSSYXcSSYcSSYPcSSYRXcSSYRcZHATcZHAXcZHAcZHAPcZHUOXcZHUO
cZHUOPcZHOTcZHOXcZHOcZHOPcZHETcZHEXcZHEcZHEPcZHUTcZHUXcZHUcZHUPcZHURXcZHURcZHYTcZHYXcZHYcZHYP
cZHYRXcZHYRcCHATcCHAXcCHAcCHAPcCHUOTcCHUOXcCHUOcCHUOPcCHOTcCHOXcCHOcCHOPcCHETcCHEXcCHEcCHEPcCHUX
cCHUcCHUPcCHURXcCHURcCHYTcCHYXcCHYcCHYPcCHYRXcCHYRcRRAXcRRAcRRUOXcRRUOcRROTcRROXcRROcRROPcRRET
cRREXcRREcRREPcRRUTcRRUXcRRUcRRUPcRRURXcRRURcRRYTcRRYXcRRYcRRYPcRRYRXcRRYRcNRATcNRAXcNRAcNRAPcNROX
cNROcNROPcNRETcNREXcNREcNREPcNRUTcNRUXcNRUcNRUPcNRURXcNRURcNRYTcNRYXcNRYcNRYPcNRYRXcNRYRcSHATcSHAX
cSHAcSHAPcSHUOXcSHUOcSHUOPcSHOTcSHOXcSHOcSHOPcSHETcSHEXcSHEcSHEPcSHUTcSHUXcSHUcSHUPcSHURXcSHUR
cSHYTcSHYXcSHYcSHYPcSHYRXcSHYRcRATcRAXcRAcRAPcRUOXcRUOcRUOPcROTcROXcROcROPcREXcREcREPcRUTcRUXcRU
cRUPcRURXcRURcRYTcRYXcRYcRYPcRYRXcRYRcJITcJIXcJIcJIPcJIETcJIEXcJIEcJIEPcJUOTcJUOXcJUOcJUOPcJOTcJOX
cJOcJOPcJUTcJUXcJUcJUPcJURXcJURcJYTcJYXcJYcJYPcJYRXcJYRcQITcQIXcQIcQIPcQIETcQIEXcQIEcQIEPcQUOT
cQUOXcQUOcQUOPcQOTcQOXcQOcQOPcQUTcQUXcQUcQUPcQURXcQURcQYTcQYXcQYcQYPcQYRXcQYRcJJITcJJIXcJJIcJJIP
cJJIETcJJIEXcJJIEcJJIEPcJJUOXcJJUOcJJUOPcJJOTcJJOXcJJOcJJOPcJJUTcJJUXcJJUcJJUPcJJURXcJJURcJJYT
cJJYXcJJYcJJYPcNJITcNJIXcNJIcNJIPcNJIETcNJIEXcNJIEcNJIEPcNJUOXcNJUOcNJOTcNJOXcNJOcNJOPcNJUXcNJU
cNJUPcNJURXcNJURcNJYTcNJYXcNJYcNJYPcNJYRXcNJYRcNYITcNYIXcNYIcNYIPcNYIETcNYIEXcNYIEcNYIEPcNYUOX
cNYUOcNYUOPcNYOTcNYOXcNYOcNYOPcNYUTcNYUXcNYUcNYUPcXITcXIXcXIcXIPcXIETcXIEXcXIEcXIEPcXUOXcXUOcXOT
cXOXcXOcXOPcXYTcXYXcXYcXYPcXYRXcXYRcYITcYIXcYIcYIPcYIETcYIEXcYIEcYIEPcYUOTcYUOXcYUOcYUOPcYOTcYOX
cYOcYOPcYUTcYUXcYUcYUPcYURXcYURcYYTcYYXcYYcYYPcYYRXcYYR
A490bRADICAL QOTcLIcKITcNYIPcCYPcSSIcGGOPcGEPcMIcHXITcLYRcBBUTcMOPcYOcPUTcHXUOcTATcGAcZUPcCYTcDDUR
cBURcGGUOcNYOPcTUcOPcJJUTcZOTcPYTcHMOcYITcVURcSHYcVEPcZAcJOcNZUPcJJYcGOTcJJIEcWOcDUcSHURcLIEcCY
cCUOPcCIPcHXOPcSHATcZURcSHOPcCHEcZZIETcNBIEcKE
A4D0aLISU LETTER BAcPAcPHAcDAcTAcTHAcGAcKAcKHAcJAcCAcCHAcDZAcTSAcTSHAcMAcNAcLAcSAcZHAcZAcNGAcHAcXA
cHHAcFAcWAcSHAcYAcGHAcAcAEcEcEUcIcOcUcUEcUHcOEcTONE MYA TIdNA POdMYA CYAeBOeNAeJEU
bPUNCTUATION COMMAcFULL STOPaVAI SYLLABLE EEcEENcHEEcWEEcWEENcPEEcBHEEcBEEcMBEEcKPEEcMGBEEcGBEE
cFEEcVEEcTEEcTHEEcDHEEcDHHEEcLEEcREEcDEEcNDEEcSEEcSHEEcZEEcZHEEcCEEcJEEcNJEEcYEEcKEEcNGGEEcGEEcMEE
cNEEcNYEEcIcINcHIcHINcWIcWINcPIcBHIcBIcMBIcKPIcMGBIcGBIcFIcVIcTIcTHIcDHIcDHHIcLIcRIcDIcNDIcSIcSHI
cZIcZHIcCIcJIcNJIcYIcKIcNGGIcGIcMIcNIcNYIcAcANcNGANcHAcHANcWAcWANcPAcBHAcBAcMBAcKPAcKPANcMGBAcGBA
cFAcVAcTAcTHAcDHAcDHHAcLAcRAcDAcNDAcSAcSHAcZAcZHAcCAcJAcNJAcYAcKAcKANcNGGAcGAcMAcNAcNYAcOOcOONcHOO
cWOOcWOONcPOOcBHOOcBOOcMBOOcKPOOcMGBOOcGBOOcFOOcVOOcTOOcTHOOcDHOOcDHHOOcLOOcROOcDOOcNDOOcSOOcSHOO
cZOOcZHOOcCOOcJOOcNJOOcYOOcKOOcNGGOOcGOOcMOOcNOOcNYOOcUcUNcHUcHUNcWUcWUNcPUcBHUcBUcMBUcKPUcMGBU
cGBUcFUcVUcTUcTHUcDHUcDHHUcLUcRUcDUcNDUcSUcSHUcZUcZHUcCUcJUcNJUcYUcKUcNGGUcGUcMUcNUcNYUcOcONcNGON
cHOcHONcWOcWONcPOcBHOcBOcMBOcKPOcMGBOcGBOcGBONcFOcVOcTOcTHOcDHOcDHHOcLOcROcDOcNDOcSOcSHOcZOcZHOcCO
cJOcNJOcYOcKOcNGGOcGOcMOcNOcNYOcEcENcNGENcHEcHENcWEcWENcPEcBHEcBEcMBEcKPEcKPENcMGBEcGBEcGBENcFEcVE
cTEcTHEcDHEcDHHEcLEcREcDEcNDEcSEcSHEcZEcZHEcCEcJEcNJEcYEcKEcNGGEcNGGENcGEcGENcMEcNEcNYEcNG
cLENGTHENERbCOMMAbFULL STOPbQUESTION MARKbSYLLABLE NDOLE FAdKAdSOObSYMBOL FEENGcKEENGcTINGcNII
cBANGcFAAcTAAcDANGcDOONGcKUNGcTONGcDO-OcJONGbDIGIT ZEROcONEcTWOcTHREEcFOURcFIVEcSIXcSEVENcEIGHT
cNINEbSYLLABLE NDOLE MAdDO
A640aCYRILLIC CAPITAL LETTER ZEMLYAbSMALL..bCAPITAL LETTER DZELObSMALL..
bCAPITAL LETTER REVERSED DZEbSMALL...bCAPITAL LETTER IOTAbSMALL..bCAPITAL LETTER DJERVbSMALL..
bCAPITAL LETTER MONOGRAPH UKbSMALL...bCAPITAL LETTER BROAD OMEGAbSMALL...
bCAPITAL LETTER NEUTRAL YERbSMALL...bCAPITAL LETTER YERU WITH BACK.bSMALL.....
bCAPITAL LETTER IOTIFIED YATbSMALL...bCAPITAL LETTER REVERSED YUbSMALL...
bCAPITAL LETTER IOTIFIED AbSMALL...bCAPITAL LETTER CLOSED LITTLE YUSbSMALL....
bCAPITAL LETTER BLENDED.bSMALL...bCAPITAL LETTER IOTIFIED CLOSED LITTLE.bSMALL.....
bCAPITAL LETTER YNbSMALL..bCAPITAL LETTER REVERSED TSEbSMALL...bCAPITAL LETTER SOFT DEbSMALL...
bCAPITAL LETTER SOFT ELbSMALL...bCAPITAL LETTER SOFT EMbSMALL...bCAPITAL LETTER MONOCULAR O
bSMALL...bCAPITAL LETTER BINOCULAR.bSMALL...bCAPITAL LETTER DOUBLE MONOCULAR.bSMALL....
bLETTER MULTIOCULAR.aCOMBINING CYRILLIC VZMETcTEN MILLIONS SIGNcHUNDRED..cTHOUSAND..
aSLAVONIC ASTERISKaCOMBINING CYRILLIC LETTER UKRAINIAN IEdIdYIdUdHARD SIGNdYERUdSOFT SIGNdOMEGA
cKAVYKAcPAYEROKaCYRILLIC KAVYKAbPAYEROKbCAPITAL LETTER DWEbSMALL..bCAPITAL LETTER DZWEbSMALL..
bCAPITAL LETTER ZHWEbSMALL..bCAPITAL LETTER CCHEbSMALL..bCAPITAL LETTER DZZEbSMALL..
bCAPITAL LETTER TE WITH MIDDLE HOOKbSMALL.....bCAPITAL LETTER TWEbSMALL..bCAPITAL LETTER TSWE
bSMALL..bCAPITAL LETTER TSSEbSMALL..bCAPITAL LETTER TCHEbSMALL..bCAPITAL LETTER HWEbSMALL..
bCAPITAL LETTER SHWEbSMALL..bCAPITAL LETTER DOUBLE ObSMALL...bCAPITAL LETTER CROSSED.bSMALL...
aMODIFIER LETTER CYRILLIC HARD SIGNdSOFT.aCOMBINING CYRILLIC LETTER EFdIOTIFIED EaBAMUM LETTER A
cKAcUcKUcEEcREEcTAEcOcNYIcIcLAcPAcRIIcRIEEcLEEEEcMEEEEcTAAcNDAAcNJAEMcMcSUUcMUcSHIIcSIcSHEUXcSEUX
cKYEEcKETcNUAEcNUcNJUAEcYOQcSHUcYUQcYAcNSHAcKEUXcPEUXcNJEEcNTEEcPUEcWUEcPEEcFEEcRUcLUcMIcNIcREUX
cRAEcKENcNGKWAENcNGGAcNGAcSHOcPUAEcFUcFOMcWAcNAcLIcPIcLOQcKOcMBENcRENcMENcMAcTIcKIcMOcMBAAcTETcKPA
cTENcNTUUcSAMBAcFAAMAEcKOVUUcKOGHOMbCOMBINING MARK KOQNDONdTUKWENTISbNJAEMLIbFULL STOPbCOLONbCOMMA
bSEMICOLONbQUESTION MARK
A700aMODIFIER LETTER CHINESE TONE YIN PINGeYANG.eYIN SHANGeYANG.eYIN QUeYANG.eYIN RUeYANG.
cEXTRA-HIGH DOTTED TONE BARcHIGH...cMID...cLOW...cEXTRA-LOW...cEXTRA-HIGH DOTTED LEFT-STEM..
cHIGH....cMID....cLOW....cEXTRA-LOW....cEXTRA-HIGH...cHIGH...cMID...cLOW...cEXTRA-LOW...
cDOT VERTICAL.dSLASHdHORIZONTAL BARcLOWER RIGHT CORNER ANGLEcRAISED UP ARROWdDOWN.
dEXCLAMATION MARKdINVERTED..cLOW...cSTRESS AND HIGH TONEeLOW.
aLATIN CAPITAL LETTER EGYPTOLOGICAL ALEFbSMALL...bCAPITAL LETTER EGYPTOLOGICAL AINbSMALL...
bCAPITAL LETTER HENGbSMALL..bCAPITAL LETTER TZbSMALL..bCAPITAL LETTER TRESILLObSMALL..
bCAPITAL LETTER CUATRILLObSMALL..bCAPITAL LETTER CUATRILLO WITH COMMAbSMALL....
bLETTER SMALL CAPITAL FeSbCAPITAL LETTER AAbSMALL..bCAPITAL LETTER AObSMALL..bCAPITAL LETTER AU
bSMALL..bCAPITAL LETTER AVbSMALL..bCAPITAL LETTER AV WITH HORIZONTAL BARbSMALL.....
bCAPITAL LETTER AYbSMALL..bCAPITAL LETTER REVERSED C WITH DOTbSMALL.....
bCAPITAL LETTER K WITH STROKEbSMALL....bCAPITAL LETTER K WITH DIAGONAL.bSMALL.....
bCAPITAL LETTER K WITH STROKE AND..bSMALL.......bCAPITAL LETTER BROKEN LbSMALL...
bCAPITAL LETTER L WITH HIGH STROKEbSMALL.....bCAPITAL LETTER O WITH LONG STROKE OVERLAY
bSMALL......bCAPITAL LETTER O WITH LOOPbSMALL....bCAPITAL LETTER OObSMALL..
bCAPITAL LETTER P WITH STROKE THROUGH DESCENDERbSMALL......bCAPITAL LETTER P WITH FLOURISH
bSMALL....bCAPITAL LETTER P WITH SQUIRREL TAILbSMALL.....
bCAPITAL LETTER Q WITH STROKE THROUGH DESCENDERbSMALL......bCAPITAL LETTER Q WITH DIAGONAL STROKE
bSMALL.....bCAPITAL LETTER R ROTUNDAbSMALL...bCAPITAL LETTER RUM.bSMALL...
bCAPITAL LETTER V WITH DIAGONAL STROKEbSMALL.....bCAPITAL LETTER VYbSMALL..
bCAPITAL LETTER VISIGOTHIC ZbSMALL...bCAPITAL LETTER THORN WITH STROKEbSMALL....
bCAPITAL LETTER THORN WITH STROKE THROUGH DESCENDERbSMALL......bCAPITAL LETTER VENDbSMALL..
bCAPITAL LETTER ETbSMALL..bCAPITAL LETTER ISbSMALL..bCAPITAL LETTER CONbSMALL..aMODIFIER LETTER US
aLATIN SMALL LETTER DUMdLUMdMUMdNUMdRUMbLETTER SMALL CAPITAL.bSMALL LETTER TUMdUM
bCAPITAL LETTER INSULAR DbSMALL...bCAPITAL LETTER INSULAR FbSMALL...bCAPITAL LETTER INSULAR G
dTURNED..bSMALL....bCAPITAL LETTER TURNED LbSMALL...bCAPITAL LETTER INSULAR RbSMALL...
bCAPITAL LETTER INSULAR SbSMALL...bCAPITAL LETTER INSULAR TbSMALL...
aMODIFIER LETTER LOW CIRCUMFLEX ACCENTcCOLONcSHORT EQUALS SIGNaLATIN CAPITAL LETTER SALTILLO
bSMALL..bCAPITAL LETTER TURNED HbSMALL LETTER L WITH RETROFLEX HOOK AND BELT
bLETTER SINOLOGICAL DOTbCAPITAL LETTER N WITH DESCENDERbSMALL....bCAPITAL LETTER C WITH BAR
bSMALL....fPALATAL HOOKdH...bCAPITAL LETTER B WITH FLOURISHbSMALL....bCAPITAL LETTER F WITH STROKE
bSMALL....bCAPITAL LETTER VOLAPUK AEbSMALL...bCAPITAL LETTER VOLAPUK OEbSMALL...
bCAPITAL LETTER VOLAPUK UEbSMALL...bCAPITAL LETTER G WITH OBLIQUE STROKEbSMALL.....
bCAPITAL LETTER K...bSMALL.....bCAPITAL LETTER N...bSMALL.....bCAPITAL LETTER R...bSMALL.....
bCAPITAL LETTER S...bSMALL.....bCAPITAL LETTER H WITH HOOKdREVERSED OPEN EdSCRIPT GdL WITH BELT
dSMALL CAPITAL IbLETTER SMALL CAPITAL QbCAPITAL LETTER TURNED KeTdJ WITH CROSSED-TAILdCHIdBETA
bSMALL..bCAPITAL LETTER OMEGAbSMALL..bCAPITAL LETTER U WITH STROKEbSMALL....
bCAPITAL LETTER GLOTTAL AbSMALL...bCAPITAL LETTER GLOTTAL IbSMALL...bCAPITAL LETTER GLOTTAL U
bSMALL...bCAPITAL LETTER OLD POLISH ObSMALL....bCAPITAL LETTER ANGLICANA WbSMALL...
bCAPITAL LETTER C WITH PALATAL HOOKdS WITH.dZ WITH PALATAL.dD WITH SHORT STROKE OVERLAY
bSMALL......bCAPITAL LETTER S....bSMALL......
A7D0bCAPITAL LETTER CLOSED INSULAR GbSMALL....
A7D3dDOUBLE THORN
A7D5eWYNNbCAPITAL LETTER MIDDLE SCOTS SbSMALL....bCAPITAL LETTER SIGMOID.bSMALL...
A7F2aMODIFIER LETTER CAPITAL CdFdQaLATIN CAPITAL LETTER REVERSED HALF HbSMALL....
bEPIGRAPHIC LETTER SIDEWAYS IaMODIFIER LETTER CAPITAL H WITH STROKEcSMALL LIGATURE OE
aLATIN LETTER SMALL CAPITAL TURNED MbEPIGRAPHIC LETTER REVERSED FePdINVERTED MdI LONGAdARCHAIC M
aSYLOTI NAGRI LETTER AdIcSIGN DVISVARAcLETTER UdEdOcSIGN HASANTAcLETTER KOdKHOdGOdGHO
cSIGN ANUSVARAcLETTER COdCHOdJOdJHOdTTOdTTHOdDDOdDDHOdTOdTHOdDOdDHOdNOdPOdPHOdBOdBHOdMOdROdLOdRRO
dSOdHOcVOWEL SIGN AeIeUeEeOOcPOETRY MARK-1dMARK-2dMARK-3dMARK-4cSIGN ALTERNATE HASANTA
A830aNORTH INDIC FRACTION ONE QUARTEReHALFdTHREE QUARTERSdONE SIXTEENTHeEIGHTHdTHREE SIXTEENTHS
cQUARTER MARKcPLACEHOLDER.cRUPEE.cQUANTITY.
A840aPHAGS-PA LETTER KAcKHAcGAcNGAcCAcCHAcJAcNYAcTAcTHAcDAcNAcPAcPHAcBAcMAcTSAcTSHAcDZAcWAcZHAcZA
cSMALL AcYAcRAcLAcSHAcSAcHAcAcIcUcEcOcQAcXAcFAcGGAcEEbSUBJOINED LETTER WAdYAbLETTER TTAcTTHAcDDA
cNNAcALTERNATE YAcVOICELESS SHAcVOICED HAcASPIRATED FAbSUBJOINED LETTER RAbSUPERFIXED..
bLETTER CANDRABINDUbSINGLE HEAD MARKbDOUBLE..bMARK SHADcDOUBLE.
A880aSAURASHTRA SIGN ANUSVARAcVISARGAbLETTER AcAAcIcIIcUcUUcVOCALIC RdRRdLdLLcEcEEcAIcOcOOcAUcKA
cKHAcGAcGHAcNGAcCAcCHAcJAcJHAcNYAcTTAcTTHAcDDAcDDHAcNNAcTAcTHAcDAcDHAcNAcPAcPHAcBAcBHAcMAcYAcRAcLA
cVAcSHAcSSAcSAcHAcLLAbCONSONANT SIGN HAARUbVOWEL SIGN AAdIdIIdUdUUdVOCALIC ReRReLeLLdEdEEdAIdOdOO
dAUbSIGN VIRAMAcCANDRABINDU
A8CEbDANDAbDOUBLE.bDIGIT ZEROcONEcTWOcTHREEcFOURcFIVEcSIXcSEVENcEIGHTcNINE
A8E0aCOMBINING DEVANAGARI DIGIT ZEROdONEdTWOdTHREEdFOURdFIVEdSIXdSEVENdEIGHTdNINEcLETTER AdUdKAdNA
dPAdRAdVIcSIGN AVAGRAHAaDEVANAGARI SIGN SPACING CANDRABINDUcCANDRABINDU VIRAMAcDOUBLE..
cCANDRABINDU TWOdTHREEdAVAGRAHAcPUSHPIKAbGAP FILLERbCARETbHEADSTROKEbSIGN SIDDHAMbJAIN OM
bLETTER AYbVOWEL SIGN.aKAYAH LI DIGIT ZEROdONEdTWOdTHREEdFOURdFIVEdSIXdSEVENdEIGHTdNINEcLETTER KA
dKHAdGAdNGAdSAdSHAdZAdNYAdTAdHTAdNAdPAdPHAdMAdDAdBAdRAdYAdLAdWAdTHAdHAdVAdCAdAdOEdIdOOcVOWEL UEdE
dUdEEdOcTONE PLOPHUdCALYAePLOPHUcSIGN CWIdSHYAaREJANG LETTER KAcGAcNGAcTAcDAcNAcPAcBAcMAcCAcJAcNYA
cSAcRAcLAcYAcWAcHAcMBAcNGGAcNDAcNYJAcAbVOWEL SIGN IdUdEdAIdOdAUdEUdEAbCONSONANT SIGN NGdNdRdH
bVIRAMA
A95FbSECTION MARKaHANGUL CHOSEONG TIKEUT-MIEUMcTIKEUT-PIEUPcTIKEUT-SIOScTIKEUT-CIEUCcRIEUL-KIYEOK
cRIEUL-SSANGKIYEOKcRIEUL-TIKEUTcRIEUL-SSANGTIKEUTcRIEUL-MIEUMcRIEUL-PIEUPcRIEUL-SSANGPIEUP
cRIEUL-KAPYEOUNPIEUPcRIEUL-SIOScRIEUL-CIEUCcRIEUL-KHIEUKHcMIEUM-KIYEOKcMIEUM-TIKEUTcMIEUM-SIOS
cPIEUP-SIOS-THIEUTHcPIEUP-KHIEUKHcPIEUP-HIEUHcSSANGSIOS-PIEUPcIEUNG-RIEULcIEUNG-HIEUH
cSSANGCIEUC-HIEUHcSSANGTHIEUTHcPHIEUPH-HIEUHcHIEUH-SIOScSSANGYEORINHIEUH
A980aJAVANESE SIGN PANYANGGAcCECAKcLAYARcWIGNYANbLETTER AcI KAWIdcIIcUcPA CEREKcNGA LELETeRASWADI
cEcAIcOcKAdSASAKdMURDAcGAdMURDAcNGAcCAdMURDAcJAcNYA MURDAcJA MAHAPRANAcNYAcTTAdMAHAPRANAcDDA
dMAHAPRANAcNA MURDAcTAdMURDAcDAdMAHAPRANAcNAcPAdMURDAcBAdMURDAcMAcYAcRAdAGUNGcLAcWAcSA MURDA
dMAHAPRANAdcHAbSIGN CECAK TELUbVOWEL SIGN TARUNGdTOLONGdWULUeMELIKdSUKUeMENDUTdTALINGdDIRGA MURE
dPEPETbCONSONANT SIGN KERETdPENGKALdCAKRAbPANGKONbLEFT RERENGGANbRIGHT.bPADA ANDAPcMADYAcLUHUR
cWINDUcPANGKATcLINGSAcLUNGSIcADEGdADEGcPISELEHbTURNED..
A9CFbPANGRANGKEPbDIGIT ZEROcONEcTWOcTHREEcFOURcFIVEcSIXcSEVENcEIGHTcNINE
A9DEbPADA TIRTA TUMETEScISEN-ISENaMYANMAR LETTER SHAN GHAdCHAdJHAdNNAdBHAbSIGN SHAN SAW
bMODIFIER LETTER SHAN REDUPLICATIONbLETTER TAI LAING NYAeFAeGAeGHAeJAeJHAeDDAeDDHAeNNA
bTAI LAING DIGIT ZEROeONEeTWOeTHREEeFOUReFIVEeSIXeSEVENeEIGHTeNINEbLETTER TAI LAING LLAeDAeDHAeBA
eBHA
AA00aCHAM LETTER AcIcUcEcAIcOcKAcKHAcGAcGHAcNGUEcNGAcCHAcCHHAcJAcJHAcNHUEcNHAcNHJAcTAcTHAcDAcDHA
cNUEcNAcDDAcPAcPPAcPHAcBAcBHAcMUEcMAcBBAcYAcRAcLAcVAcSSAcSAcHAbVOWEL SIGN AAdIdIIdEIdUdOEdOdAIdAU
dUEbCONSONANT SIGN YAdRAdLAdWA
AA40bLETTER FINAL KdGdNGbCONSONANT SIGN..bLETTER FINAL CHdTdNdPdYdRdLdSSbCONSONANT SIGN FINAL MeH
AA50bDIGIT ZEROcONEcTWOcTHREEcFOURcFIVEcSIXcSEVENcEIGHTcNINE
AA5CbPUNCTUATION SPIRALcDANDAcDOUBLE.cTRIPLE.aMYANMAR LETTER KHAMTI GAdCAdCHAdJAdJHAdNYAdTTAdTTHA
dDDAdDDHAdDHAdNAdSAdHAdHHAdFAbMODIFIER LETTER KHAMTI REDUPLICATIONbLETTER KHAMTI XAdZAdRA
bLOGOGRAM KHAMTI OAYdQNdHMbSYMBOL AITON EXCLAMATIONdONEdTWObLETTER AITON RAbSIGN PAO KAREN TONE
cTAI LAING TONE-2eTONE-5bLETTER SHWE PALAUNG CHAeSHAaTAI VIET LETTER LOW KOdHIGH.dLOW KHOdHIGH.
dLOW KHHOdHIGH.dLOW GOdHIGH.dLOW NGOdHIGH.dLOW COdHIGH.dLOW CHOdHIGH.dLOW SOdHIGH.dLOW NYOdHIGH.
dLOW DOdHIGH.dLOW TOdHIGH.dLOW THOdHIGH.dLOW NOdHIGH.dLOW BOdHIGH.dLOW POdHIGH.dLOW PHOdHIGH.
dLOW FOdHIGH.dLOW MOdHIGH.dLOW YOdHIGH.dLOW ROdHIGH.dLOW LOdHIGH.dLOW VOdHIGH.dLOW HOdHIGH.dLOW O
dHIGH.cMAI KANGcVOWEL AAdIdUEdUdEdOcMAI KHITcVOWEL IAdUEAdUAdAUEdAYdANdAMcTONE MAI EKeNUENGeTHO
eSONG
AADBcSYMBOL KONdNUENGdSAMdHO HOIdKOI KOIaMEETEI MAYEK LETTER EdOdCHAdNYAdTTAdTTHAdDDAdDDHAdNNAdSHA
dSSAcVOWEL SIGN IIeUUeAAIeAUeAAUcCHEIKHANcAHANG KHUDAMcANJIcSYLLABLE REPETITION MARKcWORD..
cVOWEL SIGN VISARGAcVIRAMA
AB01aETHIOPIC SYLLABLE TTHUcTTHIcTTHAAcTTHEEcTTHEcTTHO
AB09cDDHUcDDHIcDDHAAcDDHEEcDDHEcDDHO
AB11cDZUcDZIcDZAAcDZEEcDZEcDZO
AB20cCCHHAcCCHHUcCCHHIcCCHHAAcCCHHEEcCCHHEcCCHHO
AB28cBBAcBBUcBBIcBBAAcBBEEcBBEcBBO
AB30aLATIN SMALL LETTER BARRED ALPHAdA REVERSED-SCHWAdBLACKLETTER EdBARRED.dE WITH FLOURISH
dLENIS FdSCRIPT G WITH CROSSED-TAILdL WITH INVERTED LAZY SfDOUBLE MIDDLE TILDEfMIDDLE RING
dM WITH CROSSED-TAILdN..dENG..dBLACKLETTER OfWITH STROKEdOPEN...dINVERTED OEdTURNED OE WITH STROKE
gHORIZONTAL.eO OPEN-OgWITH STROKEdSTIRRUP RbLETTER SMALL CAPITAL R WITH RIGHT LEG
bSMALL LETTER R WITHOUT HANDLEdDOUBLE RdR WITH CROSSED-TAILdDOUBLE...dSCRIPT RfWITH RING
dBASELINE ESHdU WITH SHORT RIGHT LEGeBAR....dUIdTURNED.dU WITH LEFT HOOKdCHIeWITH LOW RIGHT RING
gLEFT SERIFdX WITH LOW RIGHT RINGfLONG LEFT LEGiAND LOW RIGHT RINGiWITH SERIF
dY WITH SHORT RIGHT LEGaMODIFIER BREVE WITH INVERTED BREVEbLETTER SMALL HENG
dL WITH INVERTED LAZY SfMIDDLE TILDEdU WITH LEFT HOOKaLATIN SMALL LETTER SAKHA YATdIOTIFIED E
dOPEN OEdUOdINVERTED ALPHAaGREEK LETTER SMALL CAPITAL OMEGA
aLATIN SMALL LETTER DZ DIGRAPH WITH RETROFLEX HOOKdTS....dTURNED R WITH MIDDLE TILDE
aMODIFIER LETTER SMALL TURNED WcLEFT TACKcRIGHT.
AB70aCHEROKEE SMALL LETTER AdEdIdOdUdVdGAdKAdGEdGIdGOdGUdGVdHAdHEdHIdHOdHUdHVdLAdLEdLIdLOdLUdLVdMA
dMEdMIdMOdMUdNAdHNAdNAHdNEdNIdNOdNUdNVdQUAdQUEdQUIdQUOdQUUdQUVdSAdSdSEdSIdSOdSUdSVdDAdTAdDEdTEdDI
dTIdDOdDUdDVdDLAdTLAdTLEdTLIdTLOdTLUdTLVdTSAdTSEdTSIdTSOdTSUdTSVdWAdWEdWIdWOdWUdWVdYA
aMEETEI MAYEK LETTER KOKdSAMdLAIdMITdPAdNAdCHILdTILdKHOUdNGOUdTHOUdWAIdYANGdHUKdUNdIdPHAMdATIYA
dGOKdJHAMdRAIdBAdJILdDILdGHOUdDHOUdBHAMdKOK LONSUMdLAI.dMIT.dPA.dNA.dTIL.dNGOU.dI.cVOWEL SIGN ONAP
eINAPeANAPeYENAPeSOUNAPeUNAPeCHEINAPeNUNGcCHEIKHEIcLUM IYEKcAPUN.
ABF0cDIGIT ZEROdONEdTWOdTHREEdFOURdFIVEdSIXdSEVENdEIGHTdNINE
D7B0aHANGUL JUNGSEONG O-YEOcO-O-IcYO-AcYO-AEcYO-EOcU-YEOcU-I-IcYU-AEcYU-OcEU-AcEU-EOcEU-EcEU-O
cI-YA-OcI-YAEcI-YEOcI-YEcI-O-IcI-YOcI-YUcI-IcARAEA-AcARAEA-E
D7CBbJONGSEONG NIEUN-RIEULcNIEUN-CHIEUCHcSSANGTIKEUTcSSANGTIKEUT-PIEUPcTIKEUT-PIEUPcTIKEUT-SIOS
cTIKEUT-SIOS-KIYEOKcTIKEUT-CIEUCcTIKEUT-CHIEUCHcTIKEUT-THIEUTHcRIEUL-SSANGKIYEOK
cRIEUL-KIYEOK-HIEUHcSSANGRIEUL-KHIEUKHcRIEUL-MIEUM-HIEUHcRIEUL-PIEUP-TIKEUTcRIEUL-PIEUP-PHIEUPH
cRIEUL-YESIEUNGcRIEUL-YEORINHIEUH-HIEUHcKAPYEOUNRIEULcMIEUM-NIEUNcMIEUM-SSANGNIEUNcSSANGMIEUM
cMIEUM-PIEUP-SIOScMIEUM-CIEUCcPIEUP-TIKEUTcPIEUP-RIEUL-PHIEUPHcPIEUP-MIEUMcSSANGPIEUP
cPIEUP-SIOS-TIKEUTcPIEUP-CIEUCcPIEUP-CHIEUCHcSIOS-MIEUMcSIOS-KAPYEOUNPIEUPcSSANGSIOS-KIYEOK
cSSANGSIOS-TIKEUTcSIOS-PANSIOScSIOS-CIEUCcSIOS-CHIEUCHcSIOS-THIEUTHcSIOS-HIEUHcPANSIOS-PIEUP
cPANSIOS-KAPYEOUNPIEUPcYESIEUNG-MIEUMcYESIEUNG-HIEUHcCIEUC-PIEUPcCIEUC-SSANGPIEUPcSSANGCIEUC
cPHIEUPH-SIOScPHIEUPH-THIEUTH
FB00aLATIN SMALL LIGATURE FFdFIdFLdFFIdFFLdLONG S TdST
FB13aARMENIAN SMALL LIGATURE MEN NOWeECHeINIdVEW NOWdMEN XEH
FB1DaHEBREW LETTER YOD WITH HIRIQbPOINT JUDEO-SPANISH VARIKAbLIGATURE YIDDISH YOD YOD PATAH
bLETTER ALTERNATIVE AYINcWIDE ALEFdDALETdHEdKAFdLAMEDdFINAL MEMdRESHdTAVcALTERNATIVE PLUS SIGN
cSHIN WITH SHIN DOTeSIN.eDAGESH AND SHIN.gSIN.cALEF WITH PATAHeQAMATSeMAPIQcBET WITH DAGESH
cGIMEL..cDALET..cHE WITH MAPIQcVAV WITH DAGESHcZAYIN..
FB38cTET..cYOD..cFINAL KAF..c...cLAMED..
FB3EcMEM..
FB40cNUN..cSAMEKH..
FB43cFINAL PE..c...
FB46cTSADI..cQOF..cRESH..cSHIN..cTAV..cVAV WITH HOLAMcBET WITH RAFEcKAF..cPE..bLIGATURE ALEF LAMED
aARABIC LETTER ALEF WASLA ISOLATED FORMeFINAL.cBEEH ISOLATED.dFINAL.dINITIAL.dMEDIAL.
cPEH ISOLATED.dFINAL.dINITIAL.dMEDIAL.cBEHEH ISOLATED.dFINAL.dINITIAL.dMEDIAL.cTTEHEH ISOLATED.
dFINAL.dINITIAL.dMEDIAL.cTEHEH ISOLATED.dFINAL.dINITIAL.dMEDIAL.cTTEH ISOLATED.dFINAL.dINITIAL.
dMEDIAL.cVEH ISOLATED.dFINAL.dINITIAL.dMEDIAL.cPEHEH ISOLATED.dFINAL.dINITIAL.dMEDIAL.
cDYEH ISOLATED.dFINAL.dINITIAL.dMEDIAL.cNYEH ISOLATED.dFINAL.dINITIAL.dMEDIAL.cTCHEH ISOLATED.
dFINAL.dINITIAL.dMEDIAL.cTCHEHEH ISOLATED.dFINAL.dINITIAL.dMEDIAL.cDDAHAL ISOLATED.dFINAL.
cDAHAL ISOLATED.dFINAL.cDUL ISOLATED.dFINAL.cDDAL ISOLATED.dFINAL.cJEH ISOLATED.dFINAL.
cRREH ISOLATED.dFINAL.cKEHEH ISOLATED.dFINAL.dINITIAL.dMEDIAL.cGAF ISOLATED.dFINAL.dINITIAL.
dMEDIAL.cGUEH ISOLATED.dFINAL.dINITIAL.dMEDIAL.cNGOEH ISOLATED.dFINAL.dINITIAL.dMEDIAL.
cNOON GHUNNA ISOLATED.eFINAL.cRNOON ISOLATED.dFINAL.dINITIAL.dMEDIAL.cHEH WITH YEH ABOVE ISOLATED.
gFINAL.dGOAL ISOLATED.eFINAL.eINITIAL.eMEDIAL.dDOACHASHMEE ISOLATED.eFINAL.eINITIAL.eMEDIAL.
cYEH BARREE ISOLATED.eFINAL.eWITH HAMZA ABOVE ISOLATED.hFINAL.bSYMBOL DOT ABOVEdBELOW
cTWO DOTS ABOVEeBELOWcTHREE DOTS ABOVEeBELOWePOINTING DOWNWARDS ABOVEgBELOWcFOUR DOTS ABOVEeBELOW
cDOUBLE VERTICAL BAR.cTWO DOTS VERTICALLY ABOVEfBELOWcRINGcSMALL TAH ABOVEeBELOWcWASLA ABOVE
FBD3bLETTER NG ISOLATED FORMdFINAL.dINITIAL.dMEDIAL.cU ISOLATED.dFINAL.cOE ISOLATED.dFINAL.
cYU ISOLATED.dFINAL.cU WITH HAMZA ABOVE ISOLATED.cVE..dFINAL.cKIRGHIZ OE ISOLATED.eFINAL.
dYU ISOLATED.eFINAL.cE ISOLATED.dFINAL.dINITIAL.dMEDIAL.
cUIGHUR KAZAKH KIRGHIZ ALEF MAKSURA INITIAL.hMEDIAL.
bLIGATURE YEH WITH HAMZA ABOVE WITH ALEF ISOLATED.iFINAL.hAE ISOLATED.iFINAL.hWAW ISOLATED.iFINAL.
hU ISOLATED.iFINAL.hOE ISOLATED.iFINAL.hYU ISOLATED.iFINAL.hE ISOLATED.iFINAL.iINITIAL.
cUIGHUR KIRGHIZ YEH WITH HAMZA ABOVE WITH ALEF MAKSURA ISOLATED.lFINAL.lINITIAL.
bLETTER FARSI YEH ISOLATED.eFINAL.eINITIAL.eMEDIAL.
bLIGATURE YEH WITH HAMZA ABOVE WITH JEEM ISOLATED.hHAH..hMEEM..hALEF MAKSURA..hYEH..
cBEH WITH JEEM..eHAH..eKHAH..eMEEM..eALEF MAKSURA..eYEH..cTEH WITH JEEM..eHAH..eKHAH..eMEEM..
eALEF MAKSURA..eYEH..cTHEH WITH JEEM..eMEEM..eALEF MAKSURA..eYEH..cJEEM WITH HAH..eMEEM..
cHAH WITH JEEM..eMEEM..cKHAH WITH JEEM..eHAH..eMEEM..cSEEN WITH JEEM..eHAH..eKHAH..eMEEM..
cSAD WITH HAH..eMEEM..cDAD WITH JEEM..eHAH..eKHAH..eMEEM..cTAH WITH HAH..eMEEM..cZAH....
cAIN WITH JEEM..eMEEM..cGHAIN WITH JEEM..eMEEM..cFEH WITH JEEM..eHAH..eKHAH..eMEEM..
eALEF MAKSURA..eYEH..cQAF WITH HAH..eMEEM..eALEF MAKSURA..eYEH..cKAF WITH ALEF..eJEEM..eHAH..
eKHAH..eLAM..eMEEM..eALEF MAKSURA..eYEH..cLAM WITH JEEM..eHAH..eKHAH..eMEEM..eALEF MAKSURA..eYEH..
cMEEM WITH JEEM..eHAH..eKHAH..eMEEM..eALEF MAKSURA..eYEH..cNOON WITH JEEM..eHAH..eKHAH..eMEEM..
eALEF MAKSURA..eYEH..cHEH WITH JEEM..eMEEM..eALEF MAKSURA..eYEH..cYEH WITH JEEM..eHAH..eKHAH..
eMEEM..eALEF MAKSURA..eYEH..cTHAL WITH SUPERSCRIPT ALEF..cREH.....cALEF MAKSURA.....
cSHADDA WITH DAMMATAN..eKASRATAN..eFATHA..eDAMMA..eKASRA..eSUPERSCRIPT ALEF..
cYEH WITH HAMZA ABOVE WITH REH FINAL.hZAIN..hMEEM..hNOON..hALEF MAKSURA..hYEH..cBEH WITH REH..
eZAIN..eMEEM..eNOON..eALEF MAKSURA..eYEH..cTEH WITH REH..eZAIN..eMEEM..eNOON..eALEF MAKSURA..
eYEH..cTHEH WITH REH..eZAIN..eMEEM..eNOON..eALEF MAKSURA..eYEH..cFEH WITH ALEF MAKSURA..eYEH..
cQAF WITH ALEF MAKSURA..eYEH..cKAF WITH ALEF..eLAM..eMEEM..eALEF MAKSURA..eYEH..cLAM WITH MEEM..
eALEF MAKSURA..eYEH..cMEEM WITH ALEF..eMEEM..cNOON WITH REH..eZAIN..eMEEM..eNOON..eALEF MAKSURA..
eYEH..cALEF MAKSURA WITH SUPERSCRIPT ALEF..cYEH WITH REH..eZAIN..eMEEM..eNOON..eALEF MAKSURA..
eYEH..eHAMZA ABOVE WITH JEEM INITIAL.hHAH..hKHAH..hMEEM..hHEH..cBEH WITH JEEM..eHAH..eKHAH..
eMEEM..eHEH..cTEH WITH JEEM..eHAH..eKHAH..eMEEM..eHEH..cTHEH WITH MEEM..cJEEM WITH HAH..eMEEM..
cHAH WITH JEEM..eMEEM..cKHAH WITH JEEM..eMEEM..cSEEN WITH JEEM..eHAH..eKHAH..eMEEM..
cSAD WITH HAH..eKHAH..eMEEM..cDAD WITH JEEM..eHAH..eKHAH..eMEEM..cTAH WITH HAH..cZAH WITH MEEM..
cAIN WITH JEEM..eMEEM..cGHAIN WITH JEEM..eMEEM..cFEH WITH JEEM..eHAH..eKHAH..eMEEM..
cQAF WITH HAH..eMEEM..cKAF WITH JEEM..eHAH..eKHAH..eLAM..eMEEM..cLAM WITH JEEM..eHAH..eKHAH..
eMEEM..eHEH..cMEEM WITH JEEM..eHAH..eKHAH..eMEEM..cNOON WITH JEEM..eHAH..eKHAH..eMEEM..eHEH..
cHEH WITH JEEM..eMEEM..eSUPERSCRIPT ALEF..cYEH WITH JEEM..eHAH..eKHAH..eMEEM..eHEH..
eHAMZA ABOVE WITH MEEM MEDIAL.hHEH..cBEH WITH MEEM..eHEH..cTEH WITH MEEM..eHEH..cTHEH WITH MEEM..
eHEH..cSEEN WITH MEEM..eHEH..cSHEEN WITH MEEM..eHEH..cKAF WITH LAM..eMEEM..cLAM....cNOON....eHEH..
cYEH WITH MEEM..eHEH..cSHADDA WITH FATHA..eDAMMA..eKASRA..cTAH WITH ALEF MAKSURA ISOLATED.eYEH..
cAIN WITH ALEF MAKSURA..eYEH..cGHAIN WITH ALEF MAKSURA..eYEH..cSEEN WITH ALEF MAKSURA..eYEH..
cSHEEN WITH ALEF MAKSURA..eYEH..cHAH WITH ALEF MAKSURA..eYEH..cJEEM WITH ALEF MAKSURA..eYEH..
cKHAH WITH ALEF MAKSURA..eYEH..cSAD WITH ALEF MAKSURA..eYEH..cDAD WITH ALEF MAKSURA..eYEH..
cSHEEN WITH JEEM..eHAH..eKHAH..eMEEM..eREH..cSEEN....cSAD....cDAD....cTAH WITH ALEF MAKSURA FINAL.
eYEH..cAIN WITH ALEF MAKSURA..eYEH..cGHAIN WITH ALEF MAKSURA..eYEH..cSEEN WITH ALEF MAKSURA..
eYEH..cSHEEN WITH ALEF MAKSURA..eYEH..cHAH WITH ALEF MAKSURA..eYEH..cJEEM WITH ALEF MAKSURA..
eYEH..cKHAH WITH ALEF MAKSURA..eYEH..cSAD WITH ALEF MAKSURA..eYEH..cDAD WITH ALEF MAKSURA..eYEH..
cSHEEN WITH JEEM..eHAH..eKHAH..eMEEM..eREH..cSEEN....cSAD....cDAD....cSHEEN WITH JEEM INITIAL.
eHAH..eKHAH..eMEEM..cSEEN WITH HEH..cSHEEN....cTAH WITH MEEM..cSEEN WITH JEEM MEDIAL.eHAH..eKHAH..
cSHEEN WITH JEEM..eHAH..eKHAH..cTAH WITH MEEM..cZAH....cALEF WITH FATHATAN FINAL.fISOLATED.
aORNATE LEFT PARENTHESISbRIGHT.aARABIC LIGATURE RAHIMAHU ALLAAHcRADI ALLAAHU ANHeANHAAeANHUM
eANHUMAAeANHUNNAcSALLALLAAHU ALAYHI WA-AALIHcALAYHI AS-SALAAMcALAYHIM.cALAYHIMAA.
cALAYHI AS-SALAATU WAS-SALAAMcQUDDISA SIRRAHcSALLALLAHU ALAYHI WAAALIHEE WA-SALLAM
cALAYHAA AS-SALAAMcTABAARAKA WA-TAAALAAcRAHIMAHUM ALLAAHcTEH WITH JEEM WITH MEEM INITIAL FORM
eHAH WITH JEEM FINAL.hINITIAL.gMEEM..eKHAH....eMEEM WITH JEEM..gHAH..gKHAH..
cJEEM WITH MEEM WITH HAH FINAL.hINITIAL.cHAH WITH MEEM WITH YEH FINAL.gALEF MAKSURA..
cSEEN WITH HAH WITH JEEM INITIAL.eJEEM WITH HAH..gALEF MAKSURA FINAL.eMEEM WITH HAH..hINITIAL.
gJEEM..gMEEM FINAL.hINITIAL.cSAD WITH HAH WITH HAH FINAL.hINITIAL.eMEEM WITH MEEM FINAL.
cSHEEN WITH HAH....hINITIAL.eJEEM WITH YEH FINAL.eMEEM WITH KHAH..hINITIAL.gMEEM FINAL.hINITIAL.
cDAD WITH HAH WITH ALEF MAKSURA FINAL.eKHAH WITH MEEM..hINITIAL.cTAH WITH MEEM WITH HAH FINAL.
hINITIAL.gMEEM..gYEH FINAL.cAIN WITH JEEM WITH MEEM..eMEEM....hINITIAL.gALEF MAKSURA FINAL.
cGHAIN WITH MEEM WITH MEEM..gYEH..gALEF MAKSURA..cFEH WITH KHAH WITH MEEM..hINITIAL.
cQAF WITH MEEM WITH HAH FINAL.gMEEM..cLAM WITH HAH....gYEH..gALEF MAKSURA..
eJEEM WITH JEEM INITIAL.hFINAL.eKHAH WITH MEEM..hINITIAL.eMEEM WITH HAH FINAL.hINITIAL.
cMEEM WITH HAH WITH JEEM..gMEEM..gYEH FINAL.eJEEM WITH HAH INITIAL.gMEEM..eKHAH WITH JEEM..gMEEM..
FD92eJEEM WITH KHAH..cHEH WITH MEEM WITH JEEM..gMEEM..cNOON WITH HAH....gALEF MAKSURA FINAL.
eJEEM WITH MEEM..hINITIAL.gALEF MAKSURA FINAL.eMEEM WITH YEH..gALEF MAKSURA..
cYEH WITH MEEM WITH MEEM..hINITIAL.cBEH WITH KHAH WITH YEH FINAL.cTEH WITH JEEM....gALEF MAKSURA..
eKHAH WITH YEH..gALEF MAKSURA..eMEEM WITH YEH..gALEF MAKSURA..cJEEM WITH MEEM WITH YEH..
eHAH WITH ALEF MAKSURA..eMEEM.....cSEEN WITH KHAH.....cSAD WITH HAH WITH YEH..cSHEEN......
cDAD......cLAM WITH JEEM....eMEEM....cYEH WITH HAH....eJEEM....eMEEM....cMEEM......cQAF......
cNOON WITH HAH....cQAF WITH MEEM WITH HAH INITIAL.cLAM WITH HAH WITH MEEM..
cAIN WITH MEEM WITH YEH FINAL.cKAF......cNOON WITH JEEM WITH HAH INITIAL.
cMEEM WITH KHAH WITH YEH FINAL.cLAM WITH JEEM WITH MEEM INITIAL.cKAF WITH MEEM WITH MEEM FINAL.
cLAM WITH JEEM....cNOON WITH JEEM WITH HAH..cJEEM WITH HAH WITH YEH..cHAH WITH JEEM....cMEEM......
cFEH WITH MEEM....cBEH WITH HAH....cKAF WITH MEEM WITH MEEM INITIAL.cAIN WITH JEEM....
cSAD WITH MEEM....cSEEN WITH KHAH WITH YEH FINAL.cNOON WITH JEEM....
FDCFcSALAAMUHU ALAYNAA
FDF0cSALLA USED AS KORANIC STOP SIGN ISOLATED FORMcQALA.......cALLAH..cAKBAR..cMOHAMMAD..cSALAM..
cRASOUL..cALAYHE..cWASALLAM..cSALLA..cSALLALLAHOU ALAYHE WASALLAMcJALLAJALALOUHOUaRIAL SIGN
aARABIC LIGATURE BISMILLAH AR-RAHMAN AR-RAHEEMcSUBHAANAHU WA TAAALAAcAZZA WA JALL
aVARIATION SELECTOR-1bSELECTOR-2bSELECTOR-3bSELECTOR-4bSELECTOR-5bSELECTOR-6bSELECTOR-7bSELECTOR-8
bSELECTOR-9bSELECTOR-10bSELECTOR-11bSELECTOR-12bSELECTOR-13bSELECTOR-14bSELECTOR-15bSELECTOR-16
aPRESENTATION FORM FOR VERTICAL COMMAeIDEOGRAPHIC.fFULL STOPeCOLONeSEMICOLONeEXCLAMATION MARK
eQUESTION.eLEFT WHITE LENTICULAR BRACKETeRIGHT WHITE LENTICULAR BRAKCETeHORIZONTAL ELLIPSIS
FE20aCOMBINING LIGATURE LEFT HALFcRIGHT.bDOUBLE TILDE LEFT.dRIGHT.bMACRON LEFT.cRIGHT.
bCONJOINING MACRONbLIGATURE LEFT HALF BELOWcRIGHT..bTILDE LEFT..cRIGHT..bMACRON LEFT..cRIGHT..
bCONJOINING MACRON.bCYRILLIC TITLO LEFT HALFdRIGHT.aPRESENTATION FORM FOR VERTICAL TWO DOT LEADER
eEM DASHeEN.eLOW LINEeWAVY..eLEFT PARENTHESISeRIGHT.eLEFT CURLY BRACKETeRIGHT..
eLEFT TORTOISE SHELL.eRIGHT...eLEFT BLACK LENTICULAR.eRIGHT...eLEFT DOUBLE ANGLE.eRIGHT...eLEFT..
eRIGHT..eLEFT CORNER.eRIGHT..eLEFT WHITE..eRIGHT...aSESAME DOTaWHITE..
aPRESENTATION FORM FOR VERTICAL LEFT SQUARE BRACKETeRIGHT..aDASHED OVERLINEaCENTRELINE.aWAVY.
aDOUBLE..aDASHED LOW LINEaCENTRELINE..aWAVY..aSMALL COMMAbIDEOGRAPHIC.bFULL STOP
FE54bSEMICOLONbCOLONbQUESTION MARKbEXCLAMATION.bEM DASHbLEFT PARENTHESISbRIGHT.bLEFT CURLY BRACKET
bRIGHT..bLEFT TORTOISE SHELL.bRIGHT...bNUMBER SIGNbAMPERSANDbASTERISKbPLUS SIGNbHYPHEN-MINUS
bLESS-THAN SIGNbGREATER-THAN.bEQUALS.
FE68bREVERSE SOLIDUSbDOLLAR SIGNbPERCENT.bCOMMERCIAL AT
FE70aARABIC FATHATAN ISOLATED FORMbTATWEEL WITH FATHATAN ABOVEbDAMMATAN ISOLATED FORM
bTAIL FRAGMENTbKASRATAN ISOLATED FORM
FE76bFATHA..cMEDIAL.bDAMMA ISOLATED.cMEDIAL.bKASRA ISOLATED.cMEDIAL.bSHADDA ISOLATED.cMEDIAL.
bSUKUN ISOLATED.cMEDIAL.bLETTER HAMZA ISOLATED.cALEF WITH MADDA ABOVE..gFINAL.
eHAMZA ABOVE ISOLATED.gFINAL.cWAW WITH HAMZA ABOVE ISOLATED.gFINAL.
cALEF WITH HAMZA BELOW ISOLATED.gFINAL.cYEH WITH HAMZA ABOVE ISOLATED.gFINAL.gINITIAL.gMEDIAL.
cALEF ISOLATED.dFINAL.cBEH ISOLATED.dFINAL.dINITIAL.dMEDIAL.cTEH MARBUTA ISOLATED.eFINAL.
dISOLATED.dFINAL.dINITIAL.dMEDIAL.cTHEH ISOLATED.dFINAL.dINITIAL.dMEDIAL.cJEEM ISOLATED.dFINAL.
dINITIAL.dMEDIAL.cHAH ISOLATED.dFINAL.dINITIAL.dMEDIAL.cKHAH ISOLATED.dFINAL.dINITIAL.dMEDIAL.
cDAL ISOLATED.dFINAL.cTHAL ISOLATED.dFINAL.cREH ISOLATED.dFINAL.cZAIN ISOLATED.dFINAL.
cSEEN ISOLATED.dFINAL.dINITIAL.dMEDIAL.cSHEEN ISOLATED.dFINAL.dINITIAL.dMEDIAL.cSAD ISOLATED.
dFINAL.dINITIAL.dMEDIAL.cDAD ISOLATED.dFINAL.dINITIAL.dMEDIAL.cTAH ISOLATED.dFINAL.dINITIAL.
dMEDIAL.cZAH ISOLATED.dFINAL.dINITIAL.dMEDIAL.cAIN ISOLATED.dFINAL.dINITIAL.dMEDIAL.
cGHAIN ISOLATED.dFINAL.dINITIAL.dMEDIAL.cFEH ISOLATED.dFINAL.dINITIAL.dMEDIAL.cQAF ISOLATED.
dFINAL.dINITIAL.dMEDIAL.cKAF ISOLATED.dFINAL.dINITIAL.dMEDIAL.cLAM ISOLATED.dFINAL.dINITIAL.
dMEDIAL.cMEEM ISOLATED.dFINAL.dINITIAL.dMEDIAL.cNOON ISOLATED.dFINAL.dINITIAL.dMEDIAL.
cHEH ISOLATED.dFINAL.dINITIAL.dMEDIAL.cWAW ISOLATED.dFINAL.cALEF MAKSURA ISOLATED.eFINAL.
cYEH ISOLATED.dFINAL.dINITIAL.dMEDIAL.bLIGATURE LAM WITH ALEF WITH MADDA ABOVE ISOLATED.iFINAL.
gHAMZA ABOVE ISOLATED.iFINAL.hBELOW ISOLATED.iFINAL.fISOLATED.fFINAL.
FEFFaZERO WIDTH NO-BREAK SPACE
FF01aFULLWIDTH EXCLAMATION MARKbQUOTATION.bNUMBER SIGNbDOLLAR.bPERCENT.bAMPERSANDbAPOSTROPHE
bLEFT PARENTHESISbRIGHT.bASTERISKbPLUS SIGNbCOMMAbHYPHEN-MINUSbFULL STOPbSOLIDUSbDIGIT ZEROcONE
cTWOcTHREEcFOURcFIVEcSIXcSEVENcEIGHTcNINEbCOLONbSEMICOLONbLESS-THAN SIGNbEQUALS.bGREATER-THAN.
bQUESTION MARKbCOMMERCIAL ATbLATIN CAPITAL LETTER AeBeCeDeEeFeGeHeIeJeKeLeMeNeOePeQeReSeTeUeVeWeX
eYeZbLEFT SQUARE BRACKETbREVERSE SOLIDUSbRIGHT SQUARE BRACKETbCIRCUMFLEX ACCENTbLOW LINE
bGRAVE ACCENTbLATIN SMALL LETTER AeBeCeDeEeFeGeHeIeJeKeLeMeNeOePeQeReSeTeUeVeWeXeYeZ
bLEFT CURLY BRACKETbVERTICAL LINEbRIGHT CURLY BRACKETbTILDEbLEFT WHITE PARENTHESISbRIGHT..
aHALFWIDTH IDEOGRAPHIC FULL STOPbLEFT CORNER BRACKETbRIGHT..bIDEOGRAPHIC COMMAbKATAKANA MIDDLE DOT
cLETTER WOdSMALL AeIeUeEeOeYAeYUeYOeTUbKATAKANA-HIRAGANA PROLONGED SOUND MARKbKATAKANA LETTER AdI
dUdEdOdKAdKIdKUdKEdKOdSAdSIdSUdSEdSOdTAdTIdTUdTEdTOdNAdNIdNUdNEdNOdHAdHIdHUdHEdHOdMAdMIdMUdMEdMO
dYAdYUdYOdRAdRIdRUdREdROdWAdNcVOICED SOUND MARKcSEMI-VOICED..bHANGUL FILLERcLETTER KIYEOK
dSSANGKIYEOKdKIYEOK-SIOSdNIEUNdNIEUN-CIEUCdNIEUN-HIEUHdTIKEUTdSSANGTIKEUTdRIEULdRIEUL-KIYEOK
dRIEUL-MIEUMdRIEUL-PIEUPdRIEUL-SIOSdRIEUL-THIEUTHdRIEUL-PHIEUPHdRIEUL-HIEUHdMIEUMdPIEUPdSSANGPIEUP
dPIEUP-SIOSdSIOSdSSANGSIOSdIEUNGdCIEUCdSSANGCIEUCdCHIEUCHdKHIEUKHdTHIEUTHdPHIEUPHdHIEUH
FFC2dAdAEdYAdYAEdEOdE
FFCAdYEOdYEdOdWAdWAEdOE
FFD2dYOdUdWEOdWEdWIdYU
FFDAdEUdYIdI
FFE0aFULLWIDTH CENT SIGNbPOUND.bNOT.bMACRONbBROKEN BARbYEN SIGNbWON.
FFE8aHALFWIDTH FORMS LIGHT VERTICALbLEFTWARDS ARROWbUPWARDS.bRIGHTWARDS.bDOWNWARDS.bBLACK SQUARE
bWHITE CIRCLE
FFF9aINTERLINEAR ANNOTATION ANCHORcSEPARATORcTERMINATORaOBJECT REPLACEMENT CHARACTERa.."

/-- Names in ancient and minority scripts. -/
def ancientNames : String := "
10000aLINEAR B SYLLABLE B008 AdB038 EdB028 IdB061 OdB010 UdB001 DAdB045 DEdB007 DIdB014 DOdB051 DU
dB057 JAdB046 JE
1000DdB036 JOdB065 JUdB077 KAdB044 KEdB067 KIdB070 KOdB081 KUdB080 MAdB013 MEdB073 MIdB015 MO
dB023 MUdB006 NAdB024 NEdB030 NIdB052 NOdB055 NUdB003 PAdB072 PEdB039 PIdB011 POdB050 PUdB016 QA
dB078 QEdB021 QIdB032 QO
10028dB060 RAdB027 REdB053 RIdB002 ROdB026 RUdB031 SAdB009 SEdB041 SIdB012 SOdB058 SUdB059 TA
dB004 TEdB037 TIdB005 TOdB069 TUdB054 WAdB075 WEdB040 WIdB042 WO
1003CdB017 ZAdB074 ZE
1003FdB020 ZOdB025 A2dB043 A3dB085 AUdB071 DWEdB090 DWOdB048 NWAdB029 PU2dB062 PTEdB076 RA2
dB033 RA3dB068 RO2dB066 TA2dB087 TWEdB091 TWO
10050cSYMBOL B018dB019dB022dB034dB047dB049dB056dB063dB064dB079dB082dB083dB086dB089
10080cIDEOGRAM B100 MANdB102 WOMANdB104 DEERdB105 EQUIDdB105F MAREdB105M STALLIONdB106F EWE
dB106M RAMdB107F SHE-GOATdB107M HE-GOATdB108F SOWdB108M BOARdB109F COWdB109M BULLdB120 WHEAT
dB121 BARLEYdB122 OLIVEdB123 SPICEdB125 CYPERUScMONOGRAM B127 KAPOdB128 KANAKOcIDEOGRAM B130 OIL
dB131 WINEdB132cMONOGRAM B133 AREPAdB135 MERIcIDEOGRAM B140 BRONZEdB141 GOLDdB142dB145 WOOLdB146
dB150dB151 HORNdB152dB153dB154cMONOGRAM B156 TURO2cIDEOGRAM B157dB158dB159 CLOTHdB160dB161
dB162 GARMENTdB163 ARMOURdB164dB165dB166dB167dB168dB169dB170dB171dB172dB173 MONTHdB174dB176 TREE
dB177dB178dB179dB180dB181dB182dB183dB184dB185dB189dB190dB191 HELMETdB220 FOOTSTOOLdB225 BATHTUB
dB230 SPEARdB231 ARROWdB232dB233 SWORDdB234dB236dB240 WHEELED CHARIOTdB241.dB242 CHARIOT FRAME
dB243 WHEELdB245dB246cMONOGRAM B247 DIPTEcIDEOGRAM B248dB249dB251dB252dB253dB254 DARTdB255dB256
dB257dB258dB259dVESSEL B155eB200eB201eB202eB203eB204eB205eB206eB207eB208eB209eB210eB211eB212eB213
eB214eB215eB216eB217eB218eB219eB221eB222eB226eB227eB228eB229eB250eB305
10100aAEGEAN WORD SEPARATOR LINEdDOTbCHECK MARK
10107bNUMBER ONEcTWOcTHREEcFOURcFIVEcSIXcSEVENcEIGHTcNINEcTENcTWENTYcTHIRTYcFORTYcFIFTYcSIXTY
cSEVENTYcEIGHTYcNINETYcONE HUNDREDcTWO.cTHREE.cFOUR.cFIVE.cSIX.cSEVEN.cEIGHT.cNINE.cONE THOUSAND
cTWO.cTHREE.cFOUR.cFIVE.cSIX.cSEVEN.cEIGHT.cNINE.cTEN.cTWENTY.cTHIRTY.cFORTY.cFIFTY.cSIXTY.
cSEVENTY.cEIGHTY.cNINETY.
10137bWEIGHT BASE UNITcFIRST SUBUNITcSECOND.cTHIRD.cFOURTH.bDRY MEASURE FIRST.bLIQUID...
bMEASURE SECOND.cTHIRD.aGREEK ACROPHONIC ATTIC ONE QUARTEReHALFeDRACHMAdFIVEdFIFTYdFIVE HUNDRED
eTHOUSANDdFIFTY.dFIVE TALENTSdTEN.dFIFTY.dONE HUNDRED.dFIVE..dONE THOUSAND.dFIVE..eSTATERSdTEN.
dFIFTY.dONE HUNDRED.dFIVE..dONE THOUSAND.dTEN..dFIFTY..dTEN MNAScHERAEUM ONE PLETHRONcTHESPIAN ONE
cHERMIONIAN.cEPIDAUREAN TWOcTHESPIAN.cCYRENAIC TWO DRACHMAScEPIDAUREAN..cTROEZENIAN FIVEdTEN
eALTERNATE FORMcHERMIONIAN TENcMESSENIAN.cTHESPIAN.dTHIRTYcTROEZENIAN FIFTYeALTERNATE FORM
cHERMIONIAN FIFTYcTHESPIAN.dONE HUNDREDdTHREE.cEPIDAUREAN FIVE.cTROEZENIAN..cTHESPIAN..
cCARYSTIAN..cNAXIAN..cTHESPIAN ONE THOUSANDdFIVE.cDELPHIC FIVE MNAScSTRATIAN FIFTY.bONE HALF SIGN
eALTERNATE FORMbTWO THIRDS SIGNbTHREE QUARTERS.bYEAR.bTALENT.bDRACHMA.bOBOL.bTWO OBOLS.bTHREE..
bFOUR..bFIVE..bMETRETES.bKYATHOS BASE.bLITRA.bOUNKIA.bXESTES.bARTABE.bAROURA.bGRAMMA.
bTRYBLION BASE.bZERO.bONE QUARTER.bSINUSOID.bINDICTION.aNOMISMA.
10190aROMAN SEXTANS.bUNCIA.bSEMUNCIA.bSEXTULA.bDIMIDIA..bSILIQUA.bDENARIUS.bQUINARIUS.bSESTERTIUS.
bDUPONDIUS.bAS.bCENTURIAL.aASCIA SYMBOL
101A0aGREEK SYMBOL TAU RHO
101D0aPHAISTOS DISC SIGN PEDESTRIANdPLUMED HEADdTATTOOED.dCAPTIVEdCHILDdWOMANdHELMETdGAUNTLET
dTIARAdARROWdBOWdSHIELDdCLUBdMANACLESdMATTOCKdSAWdLIDdBOOMERANGdCARPENTRY PLANEdDOLIUMdCOMBdSLING
dCOLUMNdBEEHIVEdSHIPdHORNdHIDEdBULLS LEGdCATdRAMdEAGLEdDOVEdTUNNYdBEEdPLANE TREEdVINEdPAPYRUS
dROSETTEdLILYdOX BACKdFLUTEdGRATERdSTRAINERdSMALL AXEdWAVY BANDdCOMBINING OBLIQUE STROKE
10280aLYCIAN LETTER AcEcBcBHcGcDcIcWcZcTHcJcKcQcLcMcNcMMcNNcUcPcKKcRcScTcTTcANcENcHcX
102A0aCARIAN LETTER AcP2cDcLcUUUcRcLDcA2cQcBcMcOcD2cTcSHcSH2cScC-18cUcNNcXcNcTT2cPcSScIcEcUUUUcK
cK2cNDcUUcGcG2cSTcST2cNGcIIcC-39cTTcUUU2cRRcMBcMB2cMB3cMB4cLD2cE2cUUU3
102E0aCOPTIC EPACT THOUSANDS MARKcDIGIT ONEdTWOdTHREEdFOURdFIVEdSIXdSEVENdEIGHTdNINEcNUMBER TEN
dTWENTYdTHIRTYdFORTYdFIFTYdSIXTYdSEVENTYdEIGHTYdNINETYdONE HUNDREDdTWO.dTHREE.dFOUR.dFIVE.dSIX.
dSEVEN.dEIGHT.dNINE.
10300aOLD ITALIC LETTER AdBEdKEdDEdEdVEdZEdHEdTHEdIdKAdELdEMdENdESHdOdPEdSHEdKUdERdESdTEdUdEKSdPHE
dKHEdEFdERSdCHEdIIdUUdESScNUMERAL ONEdFIVEdTENdFIFTY
1032DcLETTER YEdNORTHERN TSEdSOUTHERN.aGOTHIC LETTER AHSAcBAIRKANcGIBAcDAGScAIHVUScQAIRTHRAcIUJA
cHAGLcTHIUTHcEIScKUSMAcLAGUScMANNAcNAUTHScJERcURUScPAIRTHRAcNINETYcRAIDAcSAUILcTEIWScWINJAcFAIHU
cIGGWScHWAIRcOTHALcNINE HUNDRED
10350aOLD PERMIC LETTER ANdBURdGAIdDOIdEdZHOIdDZHOIdZATAdDZITAdIdKOKEdLEIdMENOEdNENOEdVOOIdPEEI
dREIdSIIdTAIdUdCHERYdSHOOIdSHCHOOIdYRYdYERUdOdOOdEFdHAdTSIUdVERdYERdYERIdYATdIEdYUdYAdIA
aCOMBINING OLD PERMIC LETTER ANeDOIeZATAeNENOEeSII
10380aUGARITIC LETTER ALPAcBETAcGAMLAcKHAcDELTAcHOcWOcZETAcHOTAcTETcYODcKAFcSHINcLAMDAcMEMcDHAL
cNUNcZUcSAMKAcAINcPUcSADEcQOPAcRASHAcTHANNAcGHAINcTOcIcUcSSU
1039FbWORD DIVIDERaOLD PERSIAN SIGN AdIdUdKAdKUdGAdGUdXAdCAdJAdJIdTAdTUdDAdDIdDUdTHAdPAdBAdFAdNA
dNUdMAdMIdMUdYAdVAdVIdRAdRUdLAdSAdZAdSHAdSSAdHA
103C8dAURAMAZDAAdAURAMAZDAA-2dAURAMAZDAAHAdXSHAAYATHIYAdDAHYAAUSHdDAHYAAUSH-2dBAGAdBUUMISH
cWORD DIVIDERcNUMBER ONEdTWOdTENdTWENTYdHUNDRED
10400aDESERET CAPITAL LETTER LONG IeEeAeAHeOeOOdSHORT IeEeAeAHeOeOOdAYdOWdWUdYEEdHdPEEdBEEdTEEdDEE
dCHEEdJEEdKAYdGAYdEFdVEEdETHdTHEEdESdZEEdESHdZHEEdERdELdEMdENdENGdOIdEWbSMALL LETTER LONG IeEeAeAH
eOeOOdSHORT IeEeAeAHeOeOOdAYdOWdWUdYEEdHdPEEdBEEdTEEdDEEdCHEEdJEEdKAYdGAYdEFdVEEdETHdTHEEdESdZEE
dESHdZHEEdERdELdEMdENdENGdOIdEWaSHAVIAN LETTER PEEPcTOTcKICKcFEEcTHIGHcSOcSUREcCHURCHcYEAcHUNGcBIB
cDEADcGAGcVOWcTHEYcZOOcMEASUREcJUDGEcWOEcHA-HAcLOLLcMIMEcIFcEGGcASHcADOcONcWOOLcOUTcAHcROARcNUN
cEATcAGEcICEcUPcOAKcOOZEcOILcAWEcAREcORcAIRcERRcARRAYcEARcIANcYEWaOSMANYA LETTER ALEFcBAcTAcJAcXA
cKHAcDEELcRAcSAcSHIINcDHAcCAYNcGAcFAcQAAFcKAAFcLAANcMIINcNUUNcWAWcHAcYAcAcEcIcOcUcAAcEEcOO
104A0bDIGIT ZEROcONEcTWOcTHREEcFOURcFIVEcSIXcSEVENcEIGHTcNINE
104B0aOSAGE CAPITAL LETTER AdAIdAINdAHdBRAdCHAdEHCHAdEdEINdHAdHYAdIdKAdEHKAdKYAdLAdMAdNAdOdOINdPA
dEHPAdSAdSHAdTAdEHTAdTSAdEHTSAdTSHAdDHAdUdWAdKHAdGHAdZAdZHA
104D8bSMALL LETTER AdAIdAINdAHdBRAdCHAdEHCHAdEdEINdHAdHYAdIdKAdEHKAdKYAdLAdMAdNAdOdOINdPAdEHPAdSA
dSHAdTAdEHTAdTSAdEHTSAdTSHAdDHAdUdWAdKHAdGHAdZAdZHA
10500aELBASAN LETTER AcBEcCEcCHEcDEcNDEcDHEcEIcEcFEcGEcGJEcHEcIcJEcKEcLEcLLEcMEcNEcNAcNJEcOcPEcQE
cREcRREcSEcSHEcTEcTHEcUcVEcXEcYcZEcZHEcGHEcGHAMMAcKHE
10530aCAUCASIAN ALBANIAN LETTER ALTdBETdGIMdDATdEBdZARLdEYNdZHILdTASdCHAdYOWDdZHAdIRBdSHAdLANdINYA
dXEYNdDYANdCARdJHOXdKARdLYITdHEYTdQAYdAORdCHOYdCHIdCYAYdMAQdQARdNOWCdDZYAYdSHAKdJAYNdONdTYAYdFAM
dDZAYdCHATdPENdGHEYSdRATdSEYKdVEYZdTIWRdSHOYdIWNdCYAWdCAYNdYAYDdPIWRdKIW
1056FcCITATION MARKaVITHKUQI CAPITAL LETTER AdBBEdBEdCEdCHEdDEdDHEdEIdEdFEdGA
1057CdHAdHHAdIdIJEdJEdKAdLAdLLAdMEdNEdNJEdOdPEdQAdRE
1058CdSEdSHEdTEdTHEdUdVEdXE
10594dYdZE
10597bSMALL LETTER AdBBEdBEdCEdCHEdDEdDHEdEIdEdFEdGA
105A3dHAdHHAdIdIJEdJEdKAdLAdLLAdMEdNEdNJEdOdPEdQAdRE
105B3dSEdSHEdTEdTHEdUdVEdXE
105BBdYdZE
10600aLINEAR A SIGN AB001dAB002dAB003dAB004dAB005dAB006dAB007dAB008dAB009dAB010dAB011dAB013dAB016
dAB017dAB020dAB021dAB021FdAB021MdAB022dAB022FdAB022MdAB023dAB023MdAB024dAB026dAB027dAB028dA028B
dAB029dAB030dAB031dAB034dAB037dAB038dAB039dAB040dAB041dAB044dAB045dAB046dAB047dAB048dAB049dAB050
dAB051dAB053dAB054dAB055dAB056dAB057dAB058dAB059dAB060dAB061dAB065dAB066dAB067dAB069dAB070dAB073
dAB074dAB076dAB077dAB078dAB079dAB080dAB081dAB082dAB085dAB086dAB087dA100-102dAB118dAB120dA120B
dAB122dAB123dAB131AdAB131BdA131CdAB164dAB171dAB180dAB188dAB191dA301dA302dA303dA304dA305dA306dA307
dA308dA309AdA309BdA309CdA310dA311dA312dA313AdA313BdA313CdA314dA315dA316dA317dA318dA319dA320dA321
dA322dA323dA324dA325dA326dA327dA328dA329dA330dA331dA332dA333dA334dA335dA336dA337dA338dA339dA340
dA341dA342dA343dA344dA345dA346dA347dA348dA349dA350dA351dA352dA353dA354dA355dA356dA357dA358dA359
dA360dA361dA362dA363dA364dA365dA366dA367dA368dA369dA370dA371dA400-VASdA401-VASdA402-VASdA403-VAS
dA404-VASdA405-VASdA406-VASdA407-VASdA408-VASdA409-VASdA410-VASdA411-VASdA412-VASdA413-VAS
dA414-VASdA415-VASdA416-VASdA417-VASdA418-VASdA501dA502dA503dA504dA505dA506dA508dA509dA510dA511
dA512dA513dA515dA516dA520dA521dA523dA524dA525dA526dA527dA528dA529dA530dA531dA532dA534dA535dA536
dA537dA538dA539dA540dA541dA542dA545dA547dA548dA549dA550dA551dA552dA553dA554dA555dA556dA557dA559
dA563dA564dA565dA566dA568dA569dA570dA571dA572dA573dA574dA575dA576dA577dA578dA579dA580dA581dA582
dA583dA584dA585dA586dA587dA588dA589dA591dA592dA594dA595dA596dA598dA600dA601dA602dA603dA604dA606
dA608dA609dA610dA611dA612dA613dA614dA615dA616dA617dA618dA619dA620dA621dA622dA623dA624dA626dA627
dA628dA629dA634dA637dA638dA640dA642dA643dA644dA645dA646dA648dA649dA651dA652dA653dA654dA655dA656
dA657dA658dA659dA660dA661dA662dA663dA664
10740dA701 AdA702 BdA703 DdA704 EdA705 FdA706 HdA707 JdA708 KdA709 LdA709-2 L2dA709-3 L3dA709-4 L4
dA709-6 L6dA710 WdA711 XdA712 YdA713 OMEGAdA714 ABBdA715 BBdA717 DDdA726 EYYYdA732 JE
10760dA800dA801dA802dA803dA804dA805dA806dA807
10780aMODIFIER LETTER SMALL CAPITAL AAcSUPERSCRIPT TRIANGULAR COLONdHALF..cSMALL AEdCAPITAL B
dB WITH HOOK
10787dDZ DIGRAPHfWITH RETROFLEX HOOKgCURLdDEZH DIGRAPHdD WITH TAILfHOOKgAND TAILdREVERSED E
dCLOSED REVERSED OPEN.dFENG DIGRAPHdRAMS HORNdCAPITAL GdG WITH HOOKdCAPITAL...dH WITH STROKE
dCAPITAL HdHENG WITH HOOKdDOTLESS J WITH STROKE AND.dLS DIGRAPHdLZ.dL WITH BELTdCAPITAL...
dL WITH RETROFLEX HOOK AND.dLEZHeWITH RETROFLEX HOOKdTURNED YfWITH BELTdO WITH STROKEdCAPITAL OE
dCLOSED OMEGAdQdTURNED R WITH LONG LEGiAND RETROFLEX HOOKdR WITH TAILfFISHHOOKdCAPITAL R
dTC DIGRAPH WITH CURLdTS DIGRAPHfWITH RETROFLEX HOOKdTESH DIGRAPHdT WITH RETROFLEX HOOK
dV WITH RIGHT.
107B2dCAPITAL YcGLOTTAL STOP WITH STROKEcREVERSED....cBILABIAL CLICKcDENTAL.cLATERAL.cALVEOLAR.
cRETROFLEX CLICK WITH RETROFLEX HOOKcSMALL S WITH CURL
10800aCYPRIOT SYLLABLE AcEcIcOcUcJA
10808cJO
1080AcKAcKEcKIcKOcKUcLAcLEcLIcLOcLUcMAcMEcMIcMOcMUcNAcNEcNIcNOcNUcPAcPEcPIcPOcPUcRAcREcRIcROcRUcSA
cSEcSIcSOcSUcTAcTEcTIcTOcTUcWAcWEcWIcWO
10837cXAcXE
1083CcZA
1083FcZOaIMPERIAL ARAMAIC LETTER ALEPHdBETHdGIMELdDALETHdHEdWAWdZAYINdHETHdTETHdYODHdKAPHdLAMEDH
dMEMdNUNdSAMEKHdAYINdPEdSADHEdQOPHdRESHdSHINdTAW
10857cSECTION SIGNcNUMBER ONEdTWOdTHREEdTENdTWENTYdONE HUNDREDeTHOUSANDdTEN.
aPALMYRENE LETTER ALEPHcBETHcGIMELcDALETHcHEcWAWcZAYINcHETHcTETHcYODHcKAPHcLAMEDHcMEMcFINAL NUNc.
cSAMEKHcAYINcPEcSADHEcQOPHcRESHcSHINcTAWbLEFT-POINTING FLEURONbRIGHT-POINTING.bNUMBER ONEcTWO
cTHREEcFOURcFIVEcTENcTWENTYaNABATAEAN LETTER FINAL ALEPHc.cFINAL BETHc.cGIMELcDALETHcFINAL HEc.
cWAWcZAYINcHETHcTETHcFINAL YODHc.cFINAL KAPHc.cFINAL LAMEDHc.cFINAL MEMc.cFINAL NUNc.cSAMEKHcAYIN
cPEcSADHEcQOPHcRESHcFINAL SHINc.cTAW
108A7bNUMBER ONEcTWOcTHREEcFOURbCRUCIFORM..bNUMBER FIVEcTENcTWENTYcONE HUNDRED
108E0aHATRAN LETTER ALEPHcBETHcGIMELcDALETH-RESHcHEcWAWcZAYNcHETHcTETHcYODHcKAPHcLAMEDHcMEMcNUN
cSAMEKHcAYNcPEcSADHEcQOPH
108F4cSHINcTAW
108FBbNUMBER ONEcFIVEcTENcTWENTYcONE HUNDREDaPHOENICIAN LETTER ALFcBETcGAMLcDELTcHEcWAUcZAIcHET
cTETcYODcKAFcLAMDcMEMcNUNcSEMKcAINcPEcSADEcQOFcROSHcSHINcTAUbNUMBER ONEcTENcTWENTYcONE HUNDREDcTWO
cTHREE
1091FbWORD SEPARATORaLYDIAN LETTER AcBcGcDcEcVcIcYcKcLcMcNcOcRcSScTcUcFcQcScTTcANcENcLYcNNcC
1093FbTRIANGULAR MARK
10980aMEROITIC HIEROGLYPHIC LETTER AdEdIdOdYAdWAdBAdBA-2dPAdMAdNAdNA-2dNEdNE-2dRAdRA-2dLAdKHAdHHA
dSAdSA-2dSEdKAdQAdTAdTA-2dTEdTE-2dTOdDAcSYMBOL VIDJdVIDJ-2bCURSIVE LETTER AdEdIdOdYAdWAdBAdPAdMA
dNAdNEdRAdLAdKHAdHHAdSAdARCHAIC.dSEdKAdQAdTAdTEdTOdDA
109BCcFRACTION ELEVEN TWELFTHSdONE HALFcLOGOGRAM RMTdIMNcNUMBER ONEdTWOdTHREEdFOURdFIVEdSIXdSEVEN
dEIGHTdNINEdTENdTWENTYdTHIRTYdFORTYdFIFTYdSIXTYdSEVENTY
109D2dONE HUNDREDdTWO.dTHREE.dFOUR.dFIVE.dSIX.dSEVEN.dEIGHT.dNINE.dONE THOUSANDdTWO.dTHREE.dFOUR.
dFIVE.dSIX.dSEVEN.dEIGHT.dNINE.dTEN.dTWENTY.dTHIRTY.dFORTY.dFIFTY.dSIXTY.dSEVENTY.dEIGHTY.dNINETY.
dONE HUNDRED.dTWO..dTHREE..dFOUR..dFIVE..dSIX..dSEVEN..dEIGHT..dNINE..cFRACTION ONE TWELFTH
dTWO TWELFTHSdTHREE.dFOUR.dFIVE.dSIX.dSEVEN.dEIGHT.dNINE.dTEN.aKHAROSHTHI LETTER AbVOWEL SIGN IdU
dVOCALIC R
10A05dEdO
10A0CcLENGTH MARKbSIGN DOUBLE RING BELOWcANUSVARAcVISARGAbLETTER KAcKHAcGAcGHA
10A15cCAcCHAcJA
10A19cNYAcTTAcTTHAcDDAcDDHAcNNAcTAcTHAcDAcDHAcNAcPAcPHAcBAcBHAcMAcYAcRAcLAcVAcSHAcSSAcSAcZAcHAcKKA
cTTTHAcTTTAcVHA
10A38bSIGN BAR ABOVEcCAUDAcDOT BELOW
10A3FbVIRAMAbDIGIT ONEcTWOcTHREEcFOURbNUMBER TENcTWENTYcONE HUNDREDdTHOUSANDbFRACTION ONE HALF
10A50bPUNCTUATION DOTcSMALL CIRCLEc.cCRESCENT BARcMANGALAMcLOTUScDANDAcDOUBLE.cLINES
10A60aOLD SOUTH ARABIAN LETTER HEeLAMEDHeHETHeMEMeQOPHeWAWeSHINeRESHeBETHeTAWeSATeKAPHeNUNeKHETH
eSADHEeSAMEKHeFEeALEFeAYNeDHADHEeGIMELeDALETHeGHAYNeTETHeZAYNeDHALETHeYODHeTHAWeTHETHdNUMBER ONE
eFIFTYdNUMERIC INDICATORbNORTH ARABIAN LETTER HEHeLAMeHAHeMEEMeQAFeWAWeES-2eREHeBEHeTEHeES-1eKAF
eNOONeKHAHeSADeES-3eFEHeALEFeAINeDADeGEEMeDALeGHAINeTAHeZAINeTHALeYEHeTHEHeZAHdNUMBER ONEeTEN
eTWENTY
10AC0aMANICHAEAN LETTER ALEPHcBETHcBHETHcGIMELcGHIMELcDALETHcHEcWAWbSIGN UDbLETTER ZAYINcZHAYIN
cJAYINcJHAYINcHETHcTETHcYODHcKAPHcXAPHcKHAPHcLAMEDHcDHAMEDHcTHAMEDHcMEMcNUNcSAMEKHcAYINcAAYINcPE
cFEcSADHEcQOPHcXOPHcQHOPHcRESHcSHINcSSHINcTAWbABBREVIATION MARK ABOVEdBELOW
10AEBbNUMBER ONEcFIVEcTENcTWENTYcONE HUNDREDbPUNCTUATION STARcFLEURONcDOUBLE DOT WITHIN DOTc...d
cTWO DOTScLINE FILLER
10B00aAVESTAN LETTER AcAAcAOcAAOcANcAANcAEcAEEcEcEEcOcOOcIcIIcUcUUcKEcXEcXYEcXVEcGEcGGEcGHEcCEcJE
cTEcTHEcDEcDHEcTTEcPEcFEcBEcBHEcNGEcNGYEcNGVEcNEcNYEcNNEcMEcHMEcYYEcYEcVEcREcLEcSEcZEcSHEcZHEcSHYE
cSSHEcHE
10B39bABBREVIATION MARKaTINY TWO DOTS OVER ONE DOT PUNCTUATIONaSMALL......aLARGE......
bONE DOT OVER TWO DOTS.bTWO RINGS OVER ONE RING.bONE RING OVER TWO RINGS.
aINSCRIPTIONAL PARTHIAN LETTER ALEPHdBETHdGIMELdDALETHdHEdWAWdZAYINdHETHdTETHdYODHdKAPHdLAMEDHdMEM
dNUNdSAMEKHdAYINdPEdSADHEdQOPHdRESHdSHINdTAW
10B58cNUMBER ONEdTWOdTHREEdFOURdTENdTWENTYdONE HUNDREDeTHOUSANDbPAHLAVI LETTER ALEPHdBETHdGIMEL
dDALETHdHEdWAW-AYIN-RESHdZAYINdHETHdTETHdYODHdKAPHdLAMEDHdMEM-QOPHdNUNdSAMEKHdPEdSADHEdSHINdTAW
10B78cNUMBER ONEdTWOdTHREEdFOURdTENdTWENTYdONE HUNDREDeTHOUSANDaPSALTER PAHLAVI LETTER ALEPHdBETH
dGIMELdDALETHdHEdWAW-AYIN-RESHdZAYINdHETHdYODHdKAPHdLAMEDHdMEM-QOPHdNUNdSAMEKHdPEdSADHEdSHINdTAW
10B99cSECTION MARKcTURNED..cFOUR DOTS WITH CROSSfDOT
10BA9cNUMBER ONEdTWOdTHREEdFOURdTENdTWENTYdONE HUNDRED
10C00aOLD TURKIC LETTER ORKHON AdYENISEI.eAEdORKHON IdYENISEI.eEdORKHON OeOEdYENISEI.dORKHON AB
dYENISEI.dORKHON AEBdYENISEI.dORKHON AGdYENISEI.dORKHON AEGdYENISEI.dORKHON ADdYENISEI.dORKHON AED
eEZdYENISEI.dORKHON AYdYENISEI.dORKHON AEYdYENISEI.dORKHON AEKdYENISEI.dORKHON OEKdYENISEI.
dORKHON ALdYENISEI.dORKHON AELeELTeEMeANeAENdYENISEI.dORKHON ENTdYENISEI.dORKHON ENCdYENISEI.
dORKHON ENYdYENISEI.eANGdORKHON ENGdYENISEI AENGdORKHON EPeOPeICeECdYENISEI.dORKHON AQdYENISEI.
dORKHON IQdYENISEI.dORKHON OQdYENISEI.dORKHON ARdYENISEI.dORKHON AEReASeAESeASHdYENISEI.
dORKHON ESHdYENISEI.dORKHON ATdYENISEI.dORKHON AETdYENISEI.dORKHON OTeBASH
10C80bHUNGARIAN CAPITAL LETTER AeAAeEBeAMBeECeENCeECSeEDeANDeEeCLOSE.eEEeEFeEGeEGYeEHeIeIIeEJeEK
eAKeUNKeELeELYeEMeENeENYeOeOOeNIKOLSBURG OEeRUDIMENTA.eOEEeEPeEMPeEReSHORT.eESeESZeETeENTeETYeECH
eUeUUeNIKOLSBURG UEeRUDIMENTA.eEVeEZeEZSeENT-SHAPED SIGNeUS
10CC0cSMALL LETTER AeAAeEBeAMBeECeENCeECSeEDeANDeEeCLOSE.eEEeEFeEGeEGYeEHeIeIIeEJeEKeAKeUNKeELeELY
eEMeENeENYeOeOOeNIKOLSBURG OEeRUDIMENTA.eOEEeEPeEMPeEReSHORT.eESeESZeETeENTeETYeECHeUeUU
eNIKOLSBURG UEeRUDIMENTA.eEVeEZeEZSeENT-SHAPED SIGNeUS
10CFAcNUMBER ONEdFIVEdTENdFIFTYdONE HUNDREDeTHOUSANDaHANIFI ROHINGYA LETTER AdBAdPAdTAdTTAdJAdCA
dHAdKHAdFAdDAdDDAdRAdRRAdZAdSAdSHAdKAdGAdLAdMAdNAdWAdKINNA.dYAdKINNA.dNGAdNYAdVAcVOWEL AdIdUdEdO
cMARK SAKINdNA KHONNAcSIGN HARBAHAYdTAHALAdTANAdTASSI
10D30cDIGIT ZEROdONEdTWOdTHREEdFOURdFIVEdSIXdSEVENdEIGHTdNINE
10E60aRUMI DIGIT ONEcTWOcTHREEcFOURcFIVEcSIXcSEVENcEIGHTcNINEbNUMBER TENcTWENTYcTHIRTYcFORTYcFIFTY
cSIXTYcSEVENTYcEIGHTYcNINETYcONE HUNDREDcTWO.cTHREE.cFOUR.cFIVE.cSIX.cSEVEN.cEIGHT.cNINE.
bFRACTION ONE HALFdQUARTERdTHIRDcTWO THIRDS
10E80aYEZIDI LETTER ELIFcBEcPEcPHEcTHEcSEcCIMcCHIMcCHHIMcHHAcXAcDALcZALcRAcRHAcZAcJAcSINcSHINcSAD
cDADcTAcZEcEYNcXHEYNcFAcVAdALTERNATE FORMcQAFcKAFcKHAFcGAFcLAMcMIMcNUNcUMcWAWcOWcEWcHAYcYOTcET
10EABbCOMBINING HAMZA MARKcMADDA.bHYPHENATION.
10EB0bLETTER LAM WITH DOT ABOVEcYOT WITH CIRCUMFLEX.
10F00aOLD SOGDIAN LETTER ALEPHdFINAL.dBETHdFINAL.dGIMELdHEdFINAL.dWAWdZAYINdHETHdYODHdKAPHdLAMEDH
dMEMdNUNdFINAL.fWITH VERTICAL TAILdSAMEKHdAYINdALTERNATE.dPEdSADHEdFINAL.fWITH VERTICAL TAIL
dRESH-AYIN-DALETHdSHINdTAWdFINAL.fWITH VERTICAL TAILcNUMBER ONEdTWOdTHREEdFOURdFIVEdTENdTWENTY
dTHIRTYdONE HUNDREDcFRACTION ONE HALFcLIGATURE AYIN-DALETH
10F30aSOGDIAN LETTER ALEPHcBETHcGIMELcHEcWAWcZAYINcHETHcYODHcKAPHcLAMEDHcMEMcNUNcSAMEKHcAYINcPE
cSADHEcRESH-AYINcSHINcTAWcFETHcLESHbINDEPENDENT SHINbCOMBINING DOT BELOWcTWO DOTS.cDOT ABOVE
cTWO DOTS.cCURVE.dBELOWcHOOK ABOVEdBELOWcLONG..cRESH.cSTROKE.bNUMBER ONEcTENcTWENTYcONE HUNDRED
bPUNCTUATION TWO VERTICAL BARSfWITH DOTScCIRCLE WITH DOTcTWO CIRCLES WITH DOTS
cHALF CIRCLE WITH DOT
10F70aOLD UYGHUR LETTER ALEPHdBETHdGIMEL-HETHdWAWdZAYINdFINAL HETHdYODHdKAPHdLAMEDHdMEMdNUNdSAMEKH
dPEdSADHEdRESHdSHINdTAWdLESHcCOMBINING DOT ABOVEeBELOWdTWO DOTS ABOVEfBELOWcPUNCTUATION BAR
dTWO BARSeDOTSdFOUR.
10FB0aCHORASMIAN LETTER ALEPHcSMALL.cBETHcGIMELcDALETHcHEcWAWcCURLED.cZAYINcHETHcYODHcKAPHcLAMEDH
cMEMcNUNcSAMEKHcAYINcPEcRESHcSHINcTAWbNUMBER ONEcTWOcTHREEcFOURcTENcTWENTYcONE HUNDRED
10FE0aELYMAIC LETTER ALEPHcBETHcGIMELcDALETHcHEcWAWcZAYINcHETHcTETHcYODHcKAPHcLAMEDHcMEMcNUN
cSAMEKHcAYINcPEcSADHEcQOPHcRESHcSHINcTAWbLIGATURE ZAYIN-YODH
11000aBRAHMI SIGN CANDRABINDUcANUSVARAcVISARGAcJIHVAMULIYAcUPADHMANIYAbLETTER AcAAcIcIIcUcUU
cVOCALIC RdRRdLdLLcEcAIcOcAUcKAcKHAcGAcGHAcNGAcCAcCHAcJAcJHAcNYAcTTAcTTHAcDDAcDDHAcNNAcTAcTHAcDA
cDHAcNAcPAcPHAcBAcBHAcMAcYAcRAcLAcVAcSHAcSSAcSAcHAcLLAcOLD TAMIL LLLAeRRAeNNNAbVOWEL SIGN AA
dBHATTIPROLU.dIdIIdUdUUdVOCALIC ReRReLeLLdEdAIdOdAUbVIRAMAbDANDAbDOUBLE.bPUNCTUATION DOTcDOUBLE.
cLINEcCRESCENT BARcLOTUS
11052bNUMBER ONEcTWOcTHREEcFOURcFIVEcSIXcSEVENcEIGHTcNINEcTENcTWENTYcTHIRTYcFORTYcFIFTYcSIXTY
cSEVENTYcEIGHTYcNINETYcONE HUNDREDdTHOUSANDbDIGIT ZEROcONEcTWOcTHREEcFOURcFIVEcSIXcSEVENcEIGHT
cNINEbSIGN OLD TAMIL VIRAMAbLETTER OLD TAMIL SHORT EfObVOWEL SIGN OLD TAMIL SHORT EgO
bLETTER OLD TAMIL LLA
1107FbNUMBER JOINERaKAITHI SIGN CANDRABINDUcANUSVARAcVISARGAbLETTER AcAAcIcIIcUcUUcEcAIcOcAUcKA
cKHAcGAcGHAcNGAcCAcCHAcJAcJHAcNYAcTTAcTTHAcDDAcDDDHAcDDHAcRHAcNNAcTAcTHAcDAcDHAcNAcPAcPHAcBAcBHA
cMAcYAcRAcLAcVAcSHAcSSAcSAcHAbVOWEL SIGN AAdIdIIdUdUUdEdAIdOdAUbSIGN VIRAMAcNUKTA
bABBREVIATION SIGNbENUMERATION.bNUMBER.bSECTION MARKbDOUBLE..bDANDAbDOUBLE.bVOWEL SIGN VOCALIC R
110CDbNUMBER SIGN ABOVE
110D0aSORA SOMPENG LETTER SAHdTAHdBAHdCAHdDAHdGAHdMAHdNGAHdLAHdNAHdVAHdPAHdYAHdRAHdHAHdKAHdJAH
dNYAHdAHdEEHdIHdUHdOHdEHdMAE
110F0cDIGIT ZEROdONEdTWOdTHREEdFOURdFIVEdSIXdSEVENdEIGHTdNINE
11100aCHAKMA SIGN CANDRABINDUcANUSVARAcVISARGAbLETTER AAcIcUcEcKAAcKHAAcGAAcGHAAcNGAAcCAAcCHAAcJAA
cJHAAcNYAAcTTAAcTTHAAcDDAAcDDHAAcNNAAcTAAcTHAAcDAAcDHAAcNAAcPAAcPHAAcBAAcBHAAcMAAcYYAAcYAAcRAAcLAA
cWAAcSAAcHAAbVOWEL SIGN AdIdIIdUdUUdEdAIdOdAUdOIbO MARKbAU.bVIRAMAbMAAYYAA
11136bDIGIT ZEROcONEcTWOcTHREEcFOURcFIVEcSIXcSEVENcEIGHTcNINEbSECTION MARKbDANDAbDOUBLE.
bQUESTION MARKbLETTER LHAAbVOWEL SIGN AAdEIbLETTER VAA
11150aMAHAJANI LETTER AcIcUcEcOcKAcKHAcGAcGHAcCAcCHAcJAcJHAcNYAcTTAcTTHAcDDAcDDHAcNNAcTAcTHAcDA
cDHAcNAcPAcPHAcBAcBHAcMAcRAcLAcVAcSAcHAcRRAbSIGN NUKTAbABBREVIATION SIGNbSECTION MARK
bLIGATURE SHRI
11180aSHARADA SIGN CANDRABINDUcANUSVARAcVISARGAbLETTER AcAAcIcIIcUcUUcVOCALIC RdRRdLdLLcEcAIcOcAU
cKAcKHAcGAcGHAcNGAcCAcCHAcJAcJHAcNYAcTTAcTTHAcDDAcDDHAcNNAcTAcTHAcDAcDHAcNAcPAcPHAcBAcBHAcMAcYAcRA
cLAcLLAcVAcSHAcSSAcSAcHAbVOWEL SIGN AAdIdIIdUdUUdVOCALIC ReRReLeLLdEdAIdOdAUbSIGN VIRAMAcAVAGRAHA
cJIHVAMULIYAcUPADHMANIYAbOMbDANDAbDOUBLE.bABBREVIATION SIGNbSEPARATORbSANDHI MARKbSIGN NUKTA
bVOWEL MODIFIER MARKbEXTRA SHORT VOWEL.bSUTRA.bVOWEL SIGN PRISHTHAMATRA E
bSIGN INVERTED CANDRABINDUbDIGIT ZEROcONEcTWOcTHREEcFOURcFIVEcSIXcSEVENcEIGHTcNINEbEKAM
bSIGN SIDDHAMbHEADSTROKEbCONTINUATION SIGNbSECTION MARK-1cMARK-2
111E1aSINHALA ARCHAIC DIGIT ONEdTWOdTHREEdFOURdFIVEdSIXdSEVENdEIGHTdNINEcNUMBER TENdTWENTYdTHIRTY
dFORTYdFIFTYdSIXTYdSEVENTYdEIGHTYdNINETYdONE HUNDREDeTHOUSAND
11200aKHOJKI LETTER AcAAcIcUcEcAIcOcAUcKAcKHAcGAcGGAcGHAcNGAcCAcCHAcJAcJJA
11213cNYAcTTAcTTHAcDDAcDDHAcNNAcTAcTHAcDAcDDDAcDHAcNAcPAcPHAcBAcBBAcBHAcMAcYAcRAcLAcVAcSAcHAcLLA
bVOWEL SIGN AAdIdIIdUdEdAIdOdAUbSIGN ANUSVARAcVIRAMAcNUKTAcSHADDAbDANDAbDOUBLE.bWORD SEPARATOR
bSECTION MARKbDOUBLE..bABBREVIATION SIGNbSIGN SUKUN
11280aMULTANI LETTER AcIcUcEcKAcKHAcGA
11288cGHA
1128AcCAcCHAcJAcJJA
1128FcNYAcTTAcTTHAcDDAcDDDAcDDHAcNNAcTAcTHAcDAcDHAcNAcPAcPHAcBA
1129FcBHAcMAcYAcRAcLAcVAcSAcHAcRRAcRHAbSECTION MARK
112B0aKHUDAWADI LETTER AcAAcIcIIcUcUUcEcAIcOcAUcKAcKHAcGAcGGAcGHAcNGAcCAcCHAcJAcJJAcJHAcNYAcTTA
cTTHAcDDAcDDDAcRRAcDDHAcNNAcTAcTHAcDAcDHAcNAcPAcPHAcBAcBBAcBHAcMAcYAcRAcLAcVAcSHAcSAcHA
bSIGN ANUSVARAbVOWEL SIGN AAdIdIIdUdUUdEdAIdOdAUbSIGN NUKTAcVIRAMA
112F0bDIGIT ZEROcONEcTWOcTHREEcFOURcFIVEcSIXcSEVENcEIGHTcNINE
11300aGRANTHA SIGN COMBINING ANUSVARA ABOVEcCANDRABINDUcANUSVARAcVISARGA
11305bLETTER AcAAcIcIIcUcUUcVOCALIC RdL
1130FcEEcAI
11313cOOcAUcKAcKHAcGAcGHAcNGAcCAcCHAcJAcJHAcNYAcTTAcTTHAcDDAcDDHAcNNAcTAcTHAcDAcDHAcNA
1132AcPAcPHAcBAcBHAcMAcYAcRA
11332cLAcLLA
11335cVAcSHAcSSAcSAcHA
1133BaCOMBINING BINDU BELOWaGRANTHA SIGN NUKTAcAVAGRAHAbVOWEL SIGN AAdIdIIdUdUUdVOCALIC ReRR
11347dEEdAI
1134BdOOdAUbSIGN VIRAMA
11350bOM
11357bAU LENGTH MARK
1135DbSIGN PLUTAbLETTER VEDIC ANUSVARAdDOUBLE.cVOCALIC RRdLLbVOWEL SIGN VOCALIC LeLL
11366aCOMBINING GRANTHA DIGIT ZEROdONEdTWOdTHREEdFOURdFIVEdSIX
11370cLETTER AdKAdNAdVIdPA
11400aNEWA LETTER AcAAcIcIIcUcUUcVOCALIC RdRRdLdLLcEcAIcOcAUcKAcKHAcGAcGHAcNGAcNGHAcCAcCHAcJAcJHA
cNYAcNYHAcTTAcTTHAcDDAcDDHAcNNAcTAcTHAcDAcDHAcNAcNHAcPAcPHAcBAcBHAcMAcMHAcYAcRAcRHAcLAcLHAcWAcSHA
cSSAcSAcHAbVOWEL SIGN AAdIdIIdUdUUdVOCALIC ReRReLeLLdEdAIdOdAUbSIGN VIRAMAcCANDRABINDUcANUSVARA
cVISARGAcNUKTAcAVAGRAHAcFINAL ANUSVARAbOMbSIDDHIbDANDAbDOUBLE.bCOMMAbGAP FILLERbABBREVIATION SIGN
bDIGIT ZEROcONEcTWOcTHREEcFOURcFIVEcSIXcSEVENcEIGHTcNINEbDOUBLE COMMAbPLACEHOLDER MARK
1145DbINSERTION SIGNbSANDHI MARKbLETTER VEDIC ANUSVARAbSIGN JIHVAMULIYAcUPADHMANIYA
11480aTIRHUTA ANJIbLETTER AcAAcIcIIcUcUUcVOCALIC RdRRdLdLLcEcAIcOcAUcKAcKHAcGAcGHAcNGAcCAcCHAcJA
cJHAcNYAcTTAcTTHAcDDAcDDHAcNNAcTAcTHAcDAcDHAcNAcPAcPHAcBAcBHAcMAcYAcRAcLAcVAcSHAcSSAcSAcHA
bVOWEL SIGN AAdIdIIdUdUUdVOCALIC ReRReLeLLdEdSHORT.dAIdOdSHORT.dAUbSIGN CANDRABINDUcANUSVARA
cVISARGAcVIRAMAcNUKTAcAVAGRAHAbGVANGbABBREVIATION SIGNbOM
114D0bDIGIT ZEROcONEcTWOcTHREEcFOURcFIVEcSIXcSEVENcEIGHTcNINE
11580aSIDDHAM LETTER AcAAcIcIIcUcUUcVOCALIC RdRRdLdLLcEcAIcOcAUcKAcKHAcGAcGHAcNGAcCAcCHAcJAcJHA
cNYAcTTAcTTHAcDDAcDDHAcNNAcTAcTHAcDAcDHAcNAcPAcPHAcBAcBHAcMAcYAcRAcLAcVAcSHAcSSAcSAcHA
bVOWEL SIGN AAdIdIIdUdUUdVOCALIC ReRR
115B8dEdAIdOdAUbSIGN CANDRABINDUcANUSVARAcVISARGAcVIRAMAcNUKTAcSIDDHAMbDANDAbDOUBLE.bSEPARATOR DOT
cBARbREPETITION MARK-1cMARK-2cMARK-3bEND OF TEXT MARK
bSECTION MARK WITH TRIDENT AND U-SHAPED ORNAMENTSgDOTTED CRESCENTSeRAYS...hDOUBLE.hTRIPLE.
dDOUBLE RINGfWITH RAYSdWITH DOUBLE CRESCENTSeTRIPLE.eQUADRUPLE.eSEPTUPLE.eCIRCLES AND RAYS
gTWO ENCLOSURESgFOUR.bLETTER THREE-CIRCLE ALTERNATE IcTWO-CIRCLE..eIIcALTERNATE UbVOWEL SIGN..eUU
11600aMODI LETTER AcAAcIcIIcUcUUcVOCALIC RdRRdLdLLcEcAIcOcAUcKAcKHAcGAcGHAcNGAcCAcCHAcJAcJHAcNYA
cTTAcTTHAcDDAcDDHAcNNAcTAcTHAcDAcDHAcNAcPAcPHAcBAcBHAcMAcYAcRAcLAcVAcSHAcSSAcSAcHAcLLA
bVOWEL SIGN AAdIdIIdUdUUdVOCALIC ReRReLeLLdEdAIdOdAUbSIGN ANUSVARAcVISARGAcVIRAMAcARDHACANDRA
bDANDAbDOUBLE.bABBREVIATION SIGNbSIGN HUVA
11650bDIGIT ZEROcONEcTWOcTHREEcFOURcFIVEcSIXcSEVENcEIGHTcNINE
11660aMONGOLIAN BIRGA WITH ORNAMENTbROTATED BIRGAbDOUBLE BIRGA WITH ORNAMENTbTRIPLE...
bBIRGA WITH DOUBLE.bROTATED BIRGA WITH.eDOUBLE.bINVERTED BIRGAdWITH DOUBLE ORNAMENTbSWIRL BIRGA
dWITH ORNAMENTeDOUBLE.bTURNED.....
11680aTAKRI LETTER AcAAcIcIIcUcUUcEcAIcOcAUcKAcKHAcGAcGHAcNGAcCAcCHAcJAcJHAcNYAcTTAcTTHAcDDAcDDHA
cNNAcTAcTHAcDAcDHAcNAcPAcPHAcBAcBHAcMAcYAcRAcLAcVAcSHAcSAcHAcRRAbSIGN ANUSVARAcVISARGA
bVOWEL SIGN AAdIdIIdUdUUdEdAIdOdAUbSIGN VIRAMAcNUKTAbLETTER ARCHAIC KHAbABBREVIATION SIGN
116C0bDIGIT ZEROcONEcTWOcTHREEcFOURcFIVEcSIXcSEVENcEIGHTcNINE
11700aAHOM LETTER KAcKHAcNGAcNAcTAcALTERNATE.cPAcPHAcBAcMAcJAcCHAcTHAcRAcLAcSAcNYAcHAcAcDAcDHAcGA
cALTERNATE.cGHAcBHAcJHAcALTERNATE BA
1171DbCONSONANT SIGN MEDIAL LAeRAeLIGATING.bVOWEL SIGN AdAAdIdIIdUdUUdEdAWdOdAIdAMbSIGN KILLER
11730bDIGIT ZEROcONEcTWOcTHREEcFOURcFIVEcSIXcSEVENcEIGHTcNINEbNUMBER TENcTWENTYbSIGN SMALL SECTION
c.cRULAIbSYMBOL VIbLETTER CAcTTAcTTHAcDDAcDDHAcNNAcLLA
11800aDOGRA LETTER AcAAcIcIIcUcUUcEcAIcOcAUcKAcKHAcGAcGHAcNGAcCAcCHAcJAcJHAcNYAcTTAcTTHAcDDAcDDHA
cNNAcTAcTHAcDAcDHAcNAcPAcPHAcBAcBHAcMAcYAcRAcLAcVAcSHAcSSAcSAcHAcRRAbVOWEL SIGN AAdIdIIdUdUU
dVOCALIC ReRRdEdAIdOdAUbSIGN ANUSVARAcVISARGAcVIRAMAcNUKTAbABBREVIATION SIGN
118A0aWARANG CITI CAPITAL LETTER NGAAeAeWIeYUeYAeYOeIIeUUeEeOeANGeGAeKOeENYeYUJeUCeENNeODDeTTE
eNUNGeDAeATeAMeBUePUeHIYOeHOLOeHORReHAReSSUUeSIIeVIYOcSMALL LETTER NGAAeAeWIeYUeYAeYOeIIeUUeEeO
eANGeGAeKOeENYeYUJeUCeENNeODDeTTEeNUNGeDAeATeAMeBUePUeHIYOeHOLOeHORReHAReSSUUeSIIeVIYOcDIGIT ZERO
dONEdTWOdTHREEdFOURdFIVEdSIXdSEVENdEIGHTdNINEcNUMBER TENdTWENTYdTHIRTYdFORTYdFIFTYdSIXTYdSEVENTY
dEIGHTYdNINETY
118FFcOMaDIVES AKURU LETTER AdAAdIdIIdUdUUdE
11909dO
1190CdKAdKHAdGAdGHAdNGAdCAdCHAdJA
11915dNYAdTTA
11918dDDAdDDHAdNNAdTAdTHAdDAdDHAdNAdPAdPHAdBAdBHAdMAdYAdYYAdRAdLAdVAdSHAdSSAdSAdHAdLLAdZA
cVOWEL SIGN AAeIeIIeUeUUeE
11937eAIeO
1193BcSIGN ANUSVARAdCANDRABINDUdHALANTAcVIRAMAcPREFIXED NASAL SIGNcMEDIAL YAcINITIAL RAcMEDIAL.
cSIGN NUKTAcDOUBLE DANDAcGAP FILLERcEND OF TEXT MARK
11950cDIGIT ZEROdONEdTWOdTHREEdFOURdFIVEdSIXdSEVENdEIGHTdNINE
119A0aNANDINAGARI LETTER AcAAcIcIIcUcUUcVOCALIC RdRR
119AAcEcAIcOcAUcKAcKHAcGAcGHAcNGAcCAcCHAcJAcJHAcNYAcTTAcTTHAcDDAcDDHAcNNAcTAcTHAcDAcDHAcNAcPAcPHA
cBAcBHAcMAcYAcRAcLAcVAcSHAcSSAcSAcHAcLLAcRRAbVOWEL SIGN AAdIdIIdUdUUdVOCALIC ReRR
119DAdEdAIdOdAUbSIGN ANUSVARAcVISARGAcVIRAMAcAVAGRAHAcSIDDHAMbHEADSTROKE
bVOWEL SIGN PRISHTHAMATRA E
11A00aZANABAZAR SQUARE LETTER AcVOWEL SIGN IeUEeUeEeOEeOeAIeAUeREVERSED IdLENGTH MARKcLETTER KA
dKHAdGAdGHAdNGAdCAdCHAdJAdNYAdTTAdTTHAdDDAdDDHAdNNAdTAdTHAdDAdDHAdNAdPAdPHAdBAdBHAdMAdTSAdTSHAdDZA
dDZHAdZHAdZAd-AdYAdRAdLAdVAdSHAdSSAdSAdHAdKSSAcFINAL CONSONANT MARKcSIGN VIRAMAdCANDRABINDU
eWITH ORNAMENTdCANDRA..dANUSVARAdVISARGAcCLUSTER-INITIAL LETTER RAcCLUSTER-FINAL LETTER YAeRAeLA
eVAcINITIAL HEAD MARKcCLOSING..cMARK TSHEGdSHADdDOUBLE.dLONG TSHEGcINITIAL DOUBLE-LINED HEAD MARK
cCLOSING...cSUBJOINER
11A50aSOYOMBO LETTER AbVOWEL SIGN IdUEdUdEdOdOEdAIdAUdVOCALIC ReLcLENGTH MARKbLETTER KAcKHAcGAcGHA
cNGAcCAcCHAcJAcJHAcNYAcTTAcTTHAcDDAcDDHAcNNAcTAcTHAcDAcDHAcNAcPAcPHAcBAcBHAcMAcTSAcTSHAcDZAcZHAcZA
c-AcYAcRAcLAcVAcSHAcSSAcSAcHAcKSSAbSIGN JIHVAMULIYAcUPADHMANIYAbCLUSTER-INITIAL LETTER RAdLAdSHA
dSAbFINAL CONSONANT SIGN GeKeNGeDeNeBeMeReLeSHeSe-AbSIGN ANUSVARAcVISARGAbGEMINATION MARK
bSUBJOINERbMARK TSHEGcSHADcDOUBLE.cPLUTAbHEAD MARK WITH MOON AND SUN AND TRIPLE FLAMEi.h
bTERMINAL MARK-1cMARK-2
11AB0aCANADIAN SYLLABICS NATTILIK HIdHIIdHOdHOOdHAdHAAdSHRIdSHRIIdSHROdSHROOdSHRAdSHRAAcSPEcSPI
cSPOcSPAaPAU CIN HAU LETTER PAeKAeLAeMAeDAeZAeVAeNGAeHAeGAeKHAeSAeBAeCAeTAeTHAeNAePHAeRAeFAeCHAeA
eEeIeOeUeUAeIAeFINAL PfKfTfMfNfLfWfNGfYdRISING TONE LONGfdSANDHI GLOTTAL STOP
dRISING TONE LONG FINALf.dSANDHI GLOTTAL STOP.eTONE LONGffLONG FINALf.dMID-LEVEL TONE
dGLOTTAL STOP VARIANTdMID-LEVEL TONE LONG FINALf.dLOW-FALLING TONE LONGfdGLOTTAL STOP
dLOW-FALLING TONE LONG FINALf.dGLOTTAL STOP.
11C00aBHAIKSUKI LETTER AcAAcIcIIcUcUUcVOCALIC RdRRdL
11C0AcEcAIcOcAUcKAcKHAcGAcGHAcNGAcCAcCHAcJAcJHAcNYAcTTAcTTHAcDDAcDDHAcNNAcTAcTHAcDAcDHAcNAcPAcPHA
cBAcBHAcMAcYAcRAcLAcVAcSHAcSSAcSAcHAbVOWEL SIGN AAdIdIIdUdUUdVOCALIC ReRReL
11C38dEdAIdOdAUbSIGN CANDRABINDUcANUSVARAcVISARGAcVIRAMAcAVAGRAHAbDANDAbDOUBLE.bWORD SEPARATOR
bGAP FILLER-1cFILLER-2
11C50bDIGIT ZEROcONEcTWOcTHREEcFOURcFIVEcSIXcSEVENcEIGHTcNINEbNUMBER ONEcTWOcTHREEcFOURcFIVEcSIX
cSEVENcEIGHTcNINEcTENcTWENTYcTHIRTYcFORTYcFIFTYcSIXTYcSEVENTYcEIGHTYcNINETYbHUNDREDS UNIT MARK
11C70aMARCHEN HEAD.bMARK SHADbLETTER KAcKHAcGAcNGAcCAcCHAcJAcNYAcTAcTHAcDAcNAcPAcPHAcBAcMAcTSA
cTSHAcDZAcWAcZHAcZAc-AcYAcRAcLAcSHAcSAcHAcA
11C92bSUBJOINED LETTER KAdKHAdGAdNGAdCAdCHAdJAdNYAdTAdTHAdDAdNAdPAdPHAdBAdMAdTSAdTSHAdDZAdWAdZHA
dZA
11CA9dYAdRAdLAdSHAdSAdHAdAbVOWEL SIGN AAdIdUdEdObSIGN ANUSVARAcCANDRABINDU
11D00aMASARAM GONDI LETTER AdAAdIdIIdUdUUdE
11D08dAIdO
11D0BdAUdKAdKHAdGAdGHAdNGAdCAdCHAdJAdJHAdNYAdTTAdTTHAdDDAdDDHAdNNAdTAdTHAdDAdDHAdNAdPAdPHAdBAdBHA
dMAdYAdRAdLAdVAdSHAdSSAdSAdHAdLLAdKSSAdJNYAdTRAcVOWEL SIGN AAeIeIIeUeUUeVOCALIC R
11D3AeE
11D3CeAIeO
11D3FeAUcSIGN ANUSVARAdVISARGAdNUKTAdCANDRAdHALANTAcVIRAMAcREPHAcRA-KARA
11D50cDIGIT ZEROdONEdTWOdTHREEdFOURdFIVEdSIXdSEVENdEIGHTdNINE
11D60aGUNJALA GONDI LETTER AdAAdIdIIdUdUU
11D67dEEdAI
11D6AdOOdAUdYAdVAdBAdBHAdMAdKAdKHAdTAdTHAdLAdGAdGHAdDAdDHAdNAdCAdCHAdTTAdTTHAdLLAdJAdJHAdDDAdDDHA
dNGAdPAdPHAdHAdRAdSAcVOWEL SIGN AAeIeIIeUeUU
11D90eEEeAI
11D93eOOeAUcSIGN ANUSVARAdVISARGAcVIRAMAcOM
11DA0cDIGIT ZEROdONEdTWOdTHREEdFOURdFIVEdSIXdSEVENdEIGHTdNINE
11EE0aMAKASAR LETTER KAcGAcNGAcPAcBAcMAcTAcDAcNAcCAcJAcNYAcYAcRAcLAcVAcSAcAbANGKAbVOWEL SIGN IdUdE
dObPASSIMBANGbEND OF SECTION
11FB0aLISU LETTER YHA
11FC0aTAMIL FRACTION ONE THREE-HUNDRED-AND-TWENTIETHdONE-HUNDRED-AND-SIXTIETHdEIGHTIETH
dSIXTY-FOURTHdFORTIETHdTHIRTY-SECONDcTHREE EIGHTIETHSdSIXTY-FOURTHScONE TWENTIETHdSIXTEENTH-1
dSIXTEENTH-2dTENTHdEIGHTHcTHREE TWENTIETHSdSIXTEENTHScONE FIFTHdQUARTERdHALF-1dHALF-2
cTHREE QUARTERScDOWNSCALING FACTOR KIIZHbSIGN NELcCEVITUcAAZHAAKKUcUZHAKKUcMUUVUZHAKKUcKURUNI
cPATHAKKUcMUKKURUNIcKAACUcPANAMcPONcVARAAKANcPAARAMcKUZHIcVELIbWET CULTIVATION SIGNbDRY..bLAND.
bSALT PAN.bTRADITIONAL CREDIT.cNUMBER.bCURRENT.bAND ODD.bSPENT.bTOTAL.bIN POSSESSION.
bSTARTING FROM.bSIGN MUTHALIYAcVAKAIYARAA
11FFFbPUNCTUATION END OF TEXTaCUNEIFORM SIGN AdTIMES AeBADeGAN2 TENUeHAeIGIeLAGAR GUNUeMUSHeSAGcA2
cABdTIMES ASH2eDUN3 GUNUeGALeGAN2 TENUeHAeIGI GUNUeIMINeLAGABeSHESHeU PLUS U PLUS UdGUNUcAB2
dTIMES BALAGeGAN2 TENUeME PLUS ENeSHA3eTAK4cADcAKdTIMES ERIN2eSHITA PLUS GISHcALdTIMES ALeDIM2
eGISHeHAeKAD3eKIeSHEeUSHcALANcALEPHcAMARdTIMES SHEcANdOVER ANdTHREE TIMES
dPLUS NAGA OPPOSING AN PLUS NAGAfSQUAREDcANSHEcAPINcARADdTIMES KURcARKABcASAL2cASHdZIDA TENUdKABA.
dOVER ASH TUG2 OVER TUG2 TUG2 OVER TUG2 PAPfOVER ASHhCROSSING ASH OVER ASH OVER ASHcASH2cASHGABcBA
cBADcBAG3cBAHAR2cBALdOVER BALcBALAGcBARcBARA2cBIdTIMES AeGAReIGI GUNUcBUdOVER BU ABfUNdCROSSING BU
cBULUGdOVER BULUGcBURcBUR2cDAcDAGdKISIM5 TIMES A PLUS MASHfAMARfBALAGfBIfGAgPLUS MASHfGIfGIR2fGUD
fHAfIRgPLUS LUfKAKfLAfLUgPLUS MASH2fLUMfNEfPAP PLUS PAPfSIfTAK4fU2 PLUS GIR2fUSHcDAMcDARcDARA3
cDARA4cDIcDIBcDIMdTIMES SHEcDIM2cDINdKASKAL U GUNU DISHc.cDUdOVER DUdGUNUdSHESHIGcDUBdTIMES ESH2
cDUB2cDUGcDUGUDcDUHcDUNcDUN3dGUNUeGUNUcDUN4cDUR2cEdTIMES PAPdOVER E NUN OVER NUNcE2
dTIMES A PLUS HA PLUS DAeGAReMIeSALeSHEeUcEDINcEGIRcELcENdTIMES GAN2fTENUeMEdCROSSING ENdOPPOSING.
dSQUAREDcERENcERIN2cESH2cEZENdTIMES AfPLUS LALhTIMES LALeANeBADeDUN3 GUNUgGUNUeHAfGUNUeIGI.eKASKAL
fSQUAREDeKU3eLAeLAL TIMES LALeLIeLUeU2eUDcGAdGUNUcGA2dTIMES A PLUS DA PLUS HAg.gIGI
eAB2 TENU PLUS TABeANeASHeASH2 PLUS GALeBADeBAR PLUS RAeBURfPLUS RAeDAeDIeDIM TIMES SHEeDUBeEL
fPLUS LAeENfTIMES GAN2 TENUe..eGAReGIeGI4fPLUS AeGIR2 PLUS SUeHA PLUS LU PLUS ESH2eHALfPLUS LA
eHI PLUS LIeHUB2eIGI GUNUeISH PLUS HU PLUS ASHeKAKeKASKALeKIDfPLUS LALeKU3 PLUS ANeLAeME PLUS EN
eMIeNUNfOVER NUNePAeSALeSAReSHEfPLUS TUReSHIDeSUMeTAK4eUeUDfPLUS DUdOVER GA2cGABAdCROSSING GABA
cGADdOVER GAD GAR OVER GARcGALdGAD OVER GAD GAR OVER GARcGALAMcGAMcGANcGAN2dTENUdOVER GAN2
dCROSSING.cGARcGAR3cGASHANcGESHTINdTIMES KURcGIdTIMES EeUdCROSSING GIcGI4dOVER GI4dCROSSING.cGIDIM
cGIR2dGUNUcGIR3dTIMES A PLUS IGIeGAN2 TENUeIGIeLU PLUS.ePAcGISALcGISHdCROSSING GISHdTIMES BADeTAK4
dTENUcGUdCROSSING GUcGU2dTIMES KAKfTIMES IGI GUNUeNUNeSAL PLUS TUG2dGUNUcGUDdTIMES A PLUS KURe.
dOVER GUD LUGALcGULcGUMdTIMES SHEcGURcGUR7cGURUNcGURUSHcHAdTENUdGUNUcHALcHIdTIMES ASHeASH2eBAD
eDISHeGADeKINeNUNeSHEeUcHUcHUB2dTIMES ANeHALeKASKALeLISHeUDcHUL2cIdAcIBcIDIMdOVER IDIM BURfSQUARED
cIGcIGIdDIBdRIdOVER IGI SHIR OVER SHIR UD OVER UDdGUNUcILdTIMES GAN2 TENUcIL2cIMdTIMES TAK4
dCROSSING IMdOPPOSING.dSQUAREDcIMINcINcIRcISHcKAdTIMES AeADfPLUS KU3eASH2eBADeBALAGeBAReBIeERIN2
eESH2eGAeGALeGAN2 TENUeGARfPLUS SHA3 PLUS AeGIeGIR2eGISH PLUS SARfCROSSING GISHeGUeGUR7eIGIeIMeKAK
eKIeKIDeLIeLUeMEfPLUS DUgGIgTEeMIfPLUS NUNUZeNEeNUNePIeRUeSAeSAReSHAeSHEeSHIDeSHUeSIGeSUHUReTAReU
eU2eUDeUMUM TIMES PAeUSHeZIcKA2dCROSSING KA2cKABcKAD2cKAD3cKAD4cKAD5dOVER KAD5cKAKdTIMES IGI GUNU
cKALdTIMES BADdCROSSING KALcKAM2cKAM4cKASKALdLAGAB TIMES U OVER LAGAB TIMES UdOVER KASKAL.......
cKESH2cKIdTIMES BADeUeUDcKIDcKINcKISALcKISHcKISIM5dOVER KISIM5cKU
dOVER HI TIMES ASH2 KU OVER HI TIMES ASH2cKU3cKU4dVARIANT FORMcKU7cKULdGUNUcKUNcKURdOPPOSING KUR
cKUSHU2cKWU318cLAcLAGABdTIMES AfPLUS DA PLUS HAgGARgLALeALeANeASH ZIDA TENUeBADeBIeDAReENeGAeGAR
eGUDfPLUS GUDeHAeHALeHI TIMES NUNeIGI GUNUeIMfPLUS HAgLUeKIeKINeKU3eKULfPLUS HI PLUS AeLAGABeLISH
eLUeLULeMEfPLUS ENeMUSHeNEeSHE PLUS SUMeSHITA PLUS GISH PLUS ERIN2hTENUeSHU2fPLUS SHU2eSUMeTAG
eTAK4eTE PLUS A PLUS SU PLUS NAeUfPLUS AgU PLUS UeU2 PLUS ASHeUDeUSHdSQUAREDcLAGARdTIMES SHE
fPLUS SUMdGUNUeOVER LAGAR GUNU SHEcLAHSHUcLALdTIMES LALcLAMdTIMES KURfPLUS RUcLIcLILcLIMMU2cLISH
cLUdTIMES BADcLU2dTIMES ALeBADeESH2fTENUeGAN2.eHI TIMES BADeIMeKAD2eKAD3fPLUS ASHeKIeLA PLUS ASH
eLAGABeME PLUS ENeNEeNUeSI PLUS ASHeSIK2 PLUS BUeTUG2dTENUdCROSSING LU2dOPPOSING.dSQUAREDdSHESHIG
cLU3cLUGALdOVER LUGALdOPPOSING.dSHESHIGcLUHcLULcLUMdOVER LUMfGAR OVER GARcMAdTIMES TAK4dGUNUcMA2
cMAHcMARcMASHcMASH2cMEcMEScMIcMINcMUdOVER MUcMUGdGUNUcMUNSUBcMURGU2cMUSHdTIMES AeKUReZAdOVER MUSH
fTIMES A PLUS NAdCROSSING MUSHcMUSH3dTIMES AfPLUS DIe.dGUNUcNAcNA2cNAGAdINVERTEDdTIMES SHU TENU
dOPPOSING NAGAcNAGARcNAM NUTILLUdcNAM2cNEdTIMES AeUDdSHESHIGcNIdTIMES EcNI2cNIMdTIMES GAN2 TENU
eGAR PLUS..cNINDA2dTIMES ANeASHfPLUS ASHeGUDeME PLUS GAN2 TENUeNEeNUNeSHEfPLUS A ANgASHhPLUS ASH
eU2..eUSHcNISAGcNUcNU11cNUNdLAGAR TIMES GARfMASHfSALgOVER NUN LAGAR TIMES SALfUSHdTENUdOVER NUN
dCROSSING.fLAGAR OVER LAGARcNUNUZdAB2 TIMES ASHGABfBIfDUGfGUDfIGI GUNUfKAD3fLAfNEfSILA3fU2
dKISIM5 TIMES BIgUcPAcPADcPANcPAPcPESH2cPIdTIMES AeABeBIeBUeEeIeIBeUeU2dCROSSING PIcPIRIG
dTIMES KALeUDeZAdOPPOSING PIRIGcRAcRABcRIcRUcSAcSAG NUTILLUddTIMES AeDUeDUBeHAeKAKeKUReLUMeMIeNUN
eSALeSHIDeTABeU2eUBeUMeUReUSHdOVER SAGdGUNUcSALdLAGAB TIMES ASH2cSANGA2cSARcSHAcSHA3dTIMES AeBAD
eGISHeNEeSHU2eTUReUfPLUS AcSHA6cSHAB6cSHAR2cSHEdHUdOVER SHE GAD OVER GAD GAR OVER GAR
fTAB OVER TAB...cSHEG9cSHENcSHESHcSHESH2cSHESHLAMcSHIDdTIMES AeIMcSHIMdTIMES AeBALeBULUGeDINeGAR
eIGIfGUNUeKUSHU2eLULeMUGeSALcSHINIGcSHIRdTENUdOVER SHIR BUR OVER BURcSHITAcSHUdOVER INVERTED SHU
cSHU2cSHUBURcSIdGUNUcSIGcSIG4dOVER SIG4 SHU2cSIK2cSILA3cSUdOVER SUcSUDcSUD2cSUHURcSUMcSUMASHcSUR
cSUR9cTAdASTERISKdTIMES HIeMIdGUNUcTABdOVER TAB NI OVER NI DISH OVER DISHdSQUAREDcTAGdTIMES BIeGUD
eSHEeSHUeTUG2eUDcTAK4cTARcTEdGUNUcTIdTENUcTILcTIRdTIMES TAK4dOVER TIRfGAD OVER GAD GAR OVER GARcTU
cTUG2cTUKcTUMcTURdOVER TUR ZA OVER ZAcUdGUDdU UdOVER U PA OVER PA GAR OVER GARfSUR OVER SUR
fU REVERSED OVER U REVERSEDcU2cUBcUDdKUSHU2dTIMES BADeMIeU PLUS U PLUS UjGUNUd.dSHESHIGeTIMES BAD
cUDUGcUMdTIMES LAGABeME PLUS DAeSHA3eUcUMBINcUMUMdTIMES KASKALePAcUNdGUNUcURdCROSSING URdSHESHIG
cUR2dTIMES A PLUS HAgNAeALeHAeNUNeU2fPLUS ASHgBIcUR4cURIcURI3cURUdTIMES AeASHGABeBAReDUNeGAeGAL
eGAN2 TENUeGAReGUeHAeIGIeIMeISHeKIeLUMeMINePAeSHEeSIG4eTUeU PLUS GUDeUDeURUDAc.dTIMES UcUSH
dTIMES AeKUeKUReTAK4cUSHXcUSH2cUSHUMXcUTUKIcUZ3dTIMES KASKALcUZUcZAdTENUdSQUARED TIMES KURcZAG
cZAMXcZE2cZIdOVER ZIcZI3cZIBdKABA TENUcZIGcZIZ2cZUcZU5dTIMES AcZUBURcZUMcKAP ELAMITEcAB TIMES NUN
cAB2 TIMES AcAMAR TIMES KUGcDAG KISIM5 TIMES U2 PLUS MASHcDAG3cDISH PLUS SHUcDUB TIMES SHE
cEZEN TIMES GUDeSHEcGA2 TIMES AN PLUS KAK PLUS AeASH2cGE22cGIGcHUSHcKA TIMES ANSHEeASH3eGISHeGUD
eHI TIMES ASH2eLUMePAeSHULeTUeUR2cLAGAB TIMES GIcLU2 SHESHIG TIMES BADdTIMES ESH2 PLUS LALeSHU
cMESHcMUSH3 TIMES ZAcNA4cNINcNIN9cNINDA2 TIMES BALeGIcNU11 ROTATED NINETY DEGREEScPESH2 ASTERISK
cPIR2cSAG TIMES IGI GUNUcTI2cUM TIMES MEcU U
12400bNUMERIC SIGN TWO ASHdTHREE.dFOUR.dFIVE.dSIX.dSEVEN.dEIGHT.dNINE.dTHREE DISHdFOUR.dFIVE.dSIX.
dSEVEN.dEIGHT.dNINE.dFOUR UdFIVE.dSIX.dSEVEN.dEIGHT.dNINE.dONE GESH2dTWO.dTHREE.dFOUR.dFIVE.dSIX.
dSEVEN.dEIGHT.dNINE.dONE GESHUdTWO.dTHREE.dFOUR.dFIVE.dTWO SHAR2dTHREE.fVARIANT FORMdFOUR SHAR2
dFIVE.dSIX.dSEVEN.dEIGHT.dNINE.dONE SHARUdTWO.dTHREE.fVARIANT FORMdFOUR SHARUdFIVE.
dSHAR2 TIMES GAL PLUS DISHhMINdONE BURUdTWO.dTHREE.fVARIANT FORMdFOUR BURUdFIVE.
dTHREE VARIANT FORM ESH16gESH21dFOUR VARIANT FORM LIMMUgLIMMU4gLIMMU AhBdSIX VARIANT FORM ASH9
dSEVEN VARIANT FORM IMIN3gIMIN AhBdEIGHT VARIANT FORM USSUgUSSU3dNINE VARIANT FORM ILIMMUgILIMMU3
gILIMMU4gILIMMU AdTWO ASH TENUdTHREE..dFOUR..dFIVE..dSIX..dONE BAN2dTWO.dTHREE.dFOUR.fVARIANT FORM
dFIVE BAN2fVARIANT FORMdNIGIDAMINdNIGIDAESHdONE ESHE3dTWO.dONE THIRD DISHdTWO THIRDS.dFIVE SIXTHS.
dONE THIRD VARIANT FORM AdTWO THIRDS...dONE EIGHTH ASHeQUARTER.dOLD ASSYRIAN ONE SIXTHgQUARTER
dONE QUARTER GUReHALF.dELAMITE ONE THIRDeTWO THIRDSeFORTYeFIFTYdFOUR U VARIANT FORMdFIVE...dSIX...
dSEVEN...dEIGHT...dNINE...
12470bPUNCTUATION SIGN OLD ASSYRIAN WORD DIVIDERdVERTICAL COLONdDIAGONAL.eTRICOLONeQUADCOLON
12480bSIGN AB TIMES NUN TENUeSHU2cAD TIMES ESH2cBAD TIMES DISH TENUcBAHAR2 TIMES AB2eNIeZA
cBU OVER BU TIMES NA2cDA TIMES TAK4cDAG TIMES KURcDIM TIMES IGIeU U UcDIM2 TIMES UD
cDUG TIMES ANSHEeASHfAT LEFTeDINeDUNeERIN2eGAeGIeGIR2 GUNUeGISHeHAeHIeIGI GUNUeKASKALeKUReKUSHU2
fPLUS KASKALeLAK-020eLAMfTIMES KUReLUH PLUS GISHeMASHeMESeMIeNIePIeSHEeSI GUNUcE2 TIMES KURePAP
cERIN2 XcESH2 CROSSING ESH2cEZEN SHESHIG TIMES ASHfHIfIGI GUNUfLAfLALfMEfMESfSUd..
cGA2 TIMES BAHAR2eDIM GUNUeDUG TIMES IGI.gKASKALeERENeGAeGAR PLUS DIgNEeHA PLUS A
eKUSHU2 PLUS KASKALeLAMfTIMES KUReLUHeMUSHeNEfPLUS E2gGIeSHIMeZIZ2cGABA ROTATED NINETY DEGREES
cGESHTIN TIMES UcGISH TIMES GISH CROSSING GISHcGU2 TIMES IGI GUNUcGUD PLUS GISH TIMES TAK4
cHA TENU GUNUcHI TIMES ASH OVER HI TIMES ASHcKA TIMES BUeKAeU U UeURcLAGAB TIMES ZU OVER ZU
cLAK-003cLAK-021cLAK-025cLAK-030cLAK-050cLAK-051cLAK-062cLAK-079 OVER LAK-079 GUNUcLAK-080
cLAK-081 OVER LAK-081cLAK-092cLAK-130cLAK-142cLAK-210cLAK-219cLAK-220cLAK-225cLAK-228cLAK-238
cLAK-265cLAK-266cLAK-343cLAK-347cLAK-348cLAK-383cLAK-384cLAK-390cLAK-441cLAK-449dTIMES GUeIGI
ePAP PLUS LU3gPAP PLUS.eU2 PLUS BAcLAK-450cLAK-457cLAK-470cLAK-483cLAK-490cLAK-492cLAK-493cLAK-495
cLAK-550cLAK-608cLAK-617dTIMES ASHeBADeDUN3 GUNU GUNUeKU3eLAeTAReTEeU2eUDeURUDAcLAK-636cLAK-648
dTIMES DUBeGAeIGIfGUNUeNIePAP PLUS PAP PLUS LU3eSHESH PLUS KIeUDeURUDAcLAK-724cLAK-749
cLU2 GUNU TIMES ASHdTIMES DISHeHALePAPfPLUS PAP PLUS LU3eTAK4cMI PLUS ZA7cMUSH OVER MUSH TIMES GA
gKAKcNINDA2 TIMES DIM GUNUeGISHeGULeHIeKESH2eLAK-050eMASHePAP PLUS PAPeUfPLUS UeURUDA
cSAG GUNU TIMES HAdTIMES ENeSHE AT LEFTeTAK4cSHA6 TENUcSHE OVER SHEdPLUS HUB2eNAM2eSAR
cSHU2 PLUS DUG TIMES NIeE2 TIMES ANcSI TIMES TAK4cTAK4 PLUS SAGcTUM TIMES GAN2 TENUeTHREE DISH
cUR2 INVERTEDdTIMES UDcURU TIMES DARA3eLAK-668eLU3cZA7cZU OVER ZU PLUS SAR
cZU5 TIMES THREE DISH TENU
12F90aCYPRO-MINOAN SIGN CM001cCM002cCM004cCM005cCM006cCM007cCM008cCM009cCM010cCM011cCM012cCM012B
cCM013cCM015cCM017cCM019cCM021cCM023cCM024cCM025cCM026cCM027cCM028cCM029cCM030cCM033cCM034cCM035
cCM036cCM037cCM038cCM039cCM040cCM041cCM044cCM046cCM047cCM049cCM050cCM051cCM052cCM053cCM054cCM055
cCM056cCM058cCM059cCM060cCM061cCM062cCM063cCM064cCM066cCM067cCM068cCM069cCM070cCM071cCM072cCM073
cCM074cCM075cCM075BcCM076cCM078cCM079cCM080cCM081cCM082cCM083cCM084cCM085cCM086cCM087cCM088cCM089
cCM090cCM091cCM092cCM094cCM095cCM096cCM097cCM098cCM099cCM100cCM101cCM102cCM103cCM104cCM105cCM107
cCM108cCM109cCM110cCM112cCM114cCM301cCM302
13000aEGYPTIAN HIEROGLYPH A001cA002cA003cA004cA005cA005AcA006cA006AcA006BcA007cA008cA009cA010cA011
cA012cA013cA014cA014AcA015cA016cA017cA017AcA018cA019cA020cA021cA022cA023cA024cA025cA026cA027cA028
cA029cA030cA031cA032cA032AcA033cA034cA035cA036cA037cA038cA039cA040cA040AcA041cA042cA042AcA043
cA043AcA044cA045cA045AcA046cA047cA048cA049cA050cA051cA052cA053cA054cA055cA056cA057cA058cA059cA060
cA061cA062cA063cA064cA065cA066cA067cA068cA069cA070cB001cB002cB003cB004cB005cB005AcB006cB007cB008
cB009cC001cC002cC002AcC002BcC002CcC003cC004cC005cC006cC007cC008cC009cC010cC010AcC011cC012cC013
cC014cC015cC016cC017cC018cC019cC020cC021cC022cC023cC024cD001cD002cD003cD004cD005cD006cD007cD008
cD008AcD009cD010cD011cD012cD013cD014cD015cD016cD017cD018cD019cD020cD021cD022cD023cD024cD025cD026
cD027cD027AcD028cD029cD030cD031cD031AcD032cD033cD034cD034AcD035cD036cD037cD038cD039cD040cD041cD042
cD043cD044cD045cD046cD046AcD047cD048cD048AcD049cD050cD050AcD050BcD050CcD050DcD050EcD050FcD050G
cD050HcD050IcD051cD052cD052AcD053cD054cD054AcD055cD056cD057cD058cD059cD060cD061cD062cD063cD064
cD065cD066cD067cD067AcD067BcD067CcD067DcD067EcD067FcD067GcD067HcE001cE002cE003cE004cE005cE006cE007
cE008cE008AcE009cE009AcE010cE011cE012cE013cE014cE015cE016cE016AcE017cE017AcE018cE019cE020cE020A
cE021cE022cE023cE024cE025cE026cE027cE028cE028AcE029cE030cE031cE032cE033cE034cE034AcE036cE037cE038
cF001cF001AcF002cF003cF004cF005cF006cF007cF008cF009cF010cF011cF012cF013cF013AcF014cF015cF016cF017
cF018cF019cF020cF021cF021AcF022cF023cF024cF025cF026cF027cF028cF029cF030cF031cF031AcF032cF033cF034
cF035cF036cF037cF037AcF038cF038AcF039cF040cF041cF042cF043cF044cF045cF045AcF046cF046AcF047cF047A
cF048cF049cF050cF051cF051AcF051BcF051CcF052cF053cG001cG002cG003cG004cG005cG006cG006AcG007cG007A
cG007BcG008cG009cG010cG011cG011AcG012cG013cG014cG015cG016cG017cG018cG019cG020cG020AcG021cG022cG023
cG024cG025cG026cG026AcG027cG028cG029cG030cG031cG032cG033cG034cG035cG036cG036AcG037cG037AcG038cG039
cG040cG041cG042cG043cG043AcG044cG045cG045AcG046cG047cG048cG049cG050cG051cG052cG053cG054cH001cH002
cH003cH004cH005cH006cH006AcH007cH008cI001cI002cI003cI004cI005cI005AcI006cI007cI008cI009cI009AcI010
cI010AcI011cI011AcI012cI013cI014cI015cK001cK002cK003cK004cK005cK006cK007cK008cL001cL002cL002AcL003
cL004cL005cL006cL006AcL007cL008cM001cM001AcM001BcM002cM003cM003AcM004cM005cM006cM007cM008cM009
cM010cM010AcM011cM012cM012AcM012BcM012CcM012DcM012EcM012FcM012GcM012HcM013cM014cM015cM015AcM016
cM016AcM017cM017AcM018cM019cM020cM021cM022cM022AcM023cM024cM024AcM025cM026cM027cM028cM028AcM029
cM030cM031cM031AcM032cM033cM033AcM033BcM034cM035cM036cM037cM038cM039cM040cM040AcM041cM042cM043
cM044cN001cN002cN003cN004cN005cN006cN007cN008cN009cN010cN011cN012cN013cN014cN015cN016cN017cN018
cN018AcN018BcN019cN020cN021cN022cN023cN024cN025cN025AcN026cN027cN028cN029cN030cN031cN032cN033
cN033AcN034cN034AcN035cN035AcN036cN037cN037AcN038cN039cN040cN041cN042cNL001cNL002cNL003cNL004
cNL005cNL005AcNL006cNL007cNL008cNL009cNL010cNL011cNL012cNL013cNL014cNL015cNL016cNL017cNL017AcNL018
cNL019cNL020cNU001cNU002cNU003cNU004cNU005cNU006cNU007cNU008cNU009cNU010cNU010AcNU011cNU011AcNU012
cNU013cNU014cNU015cNU016cNU017cNU018cNU018AcNU019cNU020cNU021cNU022cNU022AcO001cO001AcO002cO003
cO004cO005cO005AcO006cO006AcO006BcO006CcO006DcO006EcO006FcO007cO008cO009cO010cO010AcO010BcO010C
cO011cO012cO013cO014cO015cO016cO017cO018cO019cO019AcO020cO020AcO021cO022cO023cO024cO024AcO025
cO025AcO026cO027cO028cO029cO029AcO030cO030AcO031cO032cO033cO033AcO034cO035cO036cO036AcO036BcO036C
cO036DcO037cO038cO039cO040cO041cO042cO043cO044cO045cO046cO047cO048cO049cO050cO050AcO050BcO051cP001
cP001AcP002cP003cP003AcP004cP005cP006cP007cP008cP009cP010cP011cQ001cQ002cQ003cQ004cQ005cQ006cQ007
cR001cR002cR002AcR003cR003AcR003BcR004cR005cR006cR007cR008cR009cR010cR010AcR011cR012cR013cR014
cR015cR016cR016AcR017cR018cR019cR020cR021cR022cR023cR024cR025cR026cR027cR028cR029cS001cS002cS002A
cS003cS004cS005cS006cS006AcS007cS008cS009cS010cS011cS012cS013cS014cS014AcS014BcS015cS016cS017
cS017AcS018cS019cS020cS021cS022cS023cS024cS025cS026cS026AcS026BcS027cS028cS029cS030cS031cS032cS033
cS034cS035cS035AcS036cS037cS038cS039cS040cS041cS042cS043cS044cS045cS046cT001cT002cT003cT003AcT004
cT005cT006cT007cT007AcT008cT008AcT009cT009AcT010cT011cT011AcT012cT013cT014cT015cT016cT016AcT017
cT018cT019cT020cT021cT022cT023cT024cT025cT026cT027cT028cT029cT030cT031cT032cT032AcT033cT033AcT034
cT035cT036cU001cU002cU003cU004cU005cU006cU006AcU006BcU007cU008cU009cU010cU011cU012cU013cU014cU015
cU016cU017cU018cU019cU020cU021cU022cU023cU023AcU024cU025cU026cU027cU028cU029cU029AcU030cU031cU032
cU032AcU033cU034cU035cU036cU037cU038cU039cU040cU041cU042cV001cV001AcV001BcV001CcV001DcV001EcV001F
cV001GcV001HcV001IcV002cV002AcV003cV004cV005cV006cV007cV007AcV007BcV008cV009cV010cV011cV011AcV011B
cV011CcV012cV012AcV012BcV013cV014cV015cV016cV017cV018cV019cV020cV020AcV020BcV020CcV020DcV020E
cV020FcV020GcV020HcV020IcV020JcV020KcV020LcV021cV022cV023cV023AcV024cV025cV026cV027cV028cV028A
cV029cV029AcV030cV030AcV031cV031AcV032cV033cV033AcV034cV035cV036cV037cV037AcV038cV039cV040cV040A
cW001cW002cW003cW003AcW004cW005cW006cW007cW008cW009cW009AcW010cW010AcW011cW012cW013cW014cW014A
cW015cW016cW017cW017AcW018cW018AcW019cW020cW021cW022cW023cW024cW024AcW025cX001cX002cX003cX004
cX004AcX004BcX005cX006cX006AcX007cX008cX008AcY001cY001AcY002cY003cY004cY005cY006cY007cY008cZ001
cZ002cZ002AcZ002BcZ002CcZ002DcZ003cZ003AcZ003BcZ004cZ004AcZ005cZ005AcZ006cZ007cZ008cZ009cZ010cZ011
cZ012cZ013cZ014cZ015cZ015AcZ015BcZ015CcZ015DcZ015EcZ015FcZ015GcZ015HcZ015IcZ016cZ016AcZ016BcZ016C
cZ016DcZ016EcZ016FcZ016GcZ016HcAA001cAA002cAA003cAA004cAA005cAA006cAA007cAA007AcAA007BcAA008cAA009
cAA010cAA011cAA012cAA013cAA014cAA015cAA016cAA017cAA018cAA019cAA020cAA021cAA022cAA023cAA024cAA025
cAA026cAA027cAA028cAA029cAA030cAA031cAA032
13430cVERTICAL JOINERcHORIZONTAL.cINSERT AT TOP STARTeBOTTOM.eTOP ENDeBOTTOM.cOVERLAY MIDDLE
cBEGIN SEGMENTcEND.
14400aANATOLIAN HIEROGLYPH A001cA002cA003cA004cA005cA006cA007cA008cA009cA010cA010AcA011cA012cA013
cA014cA015cA016cA017cA018cA019cA020cA021cA022cA023cA024cA025cA026cA026AcA027cA028cA029cA030cA031
cA032cA033cA034cA035cA036cA037cA038cA039cA039AcA040cA041cA041AcA042cA043cA044cA045cA045AcA046
cA046AcA046BcA047cA048cA049cA050cA051cA052cA053cA054cA055cA056cA057cA058cA059cA060cA061cA062cA063
cA064cA065cA066cA066AcA066BcA066CcA067cA068cA069cA070cA071cA072cA073cA074cA075cA076cA077cA078cA079
cA080cA081cA082cA083cA084cA085cA086cA087cA088cA089cA090cA091cA092cA093cA094cA095cA096cA097cA097A
cA098cA098AcA099cA100cA100AcA101cA101AcA102cA102AcA103cA104cA104AcA104BcA104CcA105cA105AcA105B
cA106cA107cA107AcA107BcA107CcA108cA109cA110cA110AcA110BcA111cA112cA113cA114cA115cA115AcA116cA117
cA118cA119cA120cA121cA122cA123cA124cA125cA125AcA126cA127cA128cA129cA130cA131cA132cA133cA134cA135
cA135AcA136cA137cA138cA139cA140cA141cA142cA143cA144cA145cA146cA147cA148cA149cA150cA151cA152cA153
cA154cA155cA156cA157cA158cA159cA160cA161cA162cA163cA164cA165cA166cA167cA168cA169cA170cA171cA172
cA173cA174cA175cA176cA177cA178cA179cA180cA181cA182cA183cA184cA185cA186cA187cA188cA189cA190cA191
cA192cA193cA194cA195cA196cA197cA198cA199cA200cA201cA202cA202AcA202BcA203cA204cA205cA206cA207cA207A
cA208cA209cA209AcA210cA211cA212cA213cA214cA215cA215AcA216cA216AcA217cA218cA219cA220cA221cA222cA223
cA224cA225cA226cA227cA227AcA228cA229cA230cA231cA232cA233cA234cA235cA236cA237cA238cA239cA240cA241
cA242cA243cA244cA245cA246cA247cA248cA249cA250cA251cA252cA253cA254cA255cA256cA257cA258cA259cA260
cA261cA262cA263cA264cA265cA266cA267cA267AcA268cA269cA270cA271cA272cA273cA274cA275cA276cA277cA278
cA279cA280cA281cA282cA283cA284cA285cA286cA287cA288cA289cA289AcA290cA291cA292cA293cA294cA294AcA295
cA296cA297cA298cA299cA299AcA300cA301cA302cA303cA304cA305cA306cA307cA308cA309cA309AcA310cA311cA312
cA313cA314cA315cA316cA317cA318cA319cA320cA321cA322cA323cA324cA325cA326cA327cA328cA329cA329AcA330
cA331cA332AcA332BcA332CcA333cA334cA335cA336cA336AcA336BcA336CcA337cA338cA339cA340cA341cA342cA343
cA344cA345cA346cA347cA348cA349cA350cA351cA352cA353cA354cA355cA356cA357cA358cA359cA359AcA360cA361
cA362cA363cA364cA364AcA365cA366cA367cA368cA368AcA369cA370cA371cA371AcA372cA373cA374cA375cA376cA377
cA378cA379cA380cA381cA381AcA382cA383 RA OR RIcA383AcA384cA385cA386cA386AcA387cA388cA389cA390cA391
cA392cA393 EIGHTcA394cA395cA396cA397cA398cA399cA400cA401cA402cA403cA404cA405cA406cA407cA408cA409
cA410 BEGIN LOGOGRAM MARKcA410A END..cA411cA412cA413cA414cA415cA416cA417cA418cA419cA420cA421cA422
cA423cA424cA425cA426cA427cA428cA429cA430cA431cA432cA433cA434cA435cA436cA437cA438cA439cA440cA441
cA442cA443cA444cA445cA446cA447cA448cA449cA450cA450AcA451cA452cA453cA454cA455cA456cA457cA457AcA458
cA459cA460cA461cA462cA463cA464cA465cA466cA467cA468cA469cA470cA471cA472cA473cA474cA475cA476cA477
cA478cA479cA480cA481cA482cA483cA484cA485cA486cA487cA488cA489cA490cA491cA492cA493cA494cA495cA496
cA497cA501cA502cA503cA504cA505cA506cA507cA508cA509cA510cA511cA512cA513cA514cA515cA516cA517cA518
cA519cA520cA521cA522cA523cA524cA525cA526cA527cA528cA529cA530
16800aBAMUM LETTER PHASE-A NGKUE MFONdGBIEE FONdPON MFON PIPAEMGBIEEfPIPAEMBAdNAA MFONdSHUENSHUET
dTITA MFONdNZA.dSHINDA PA NJIdPON PA NJI PIPAEMGBIEEgPIPAEMBAdMAEMBGBIEEdTU MAEMBAdNGANGUdMAEMVEUX
dMANSUAEdMVEUAENGAMdSEUNYAMdNTOQPENdKEUKEUTNDAdNKINDIdSUUdNGKUENZEUMdLAPAQdLET KUTdNTAP MFAA
dMAEKEUPdPASHAEdGHEUAERAEdPAMSHAEdMON NGGEUAETdNZUN MEUTdU YUQ NAEdGHEUAEGHEUAEdNTAP NTAAdSISA
dMGBASAdMEUNJOMNDEUQdMOOMPUQdKAFAdPA LEERAEWAdNDA.dPETdMAEMKPENdNIKAdPUPdTUAEPdLUAEPdSONJAM
dTEUTEUWENdMAENYIdKETdNDAANGGEUAETdKUOQdMOOMEUTdSHUMdLOMMAEdFIRIdROMdKPOQdSOQdMAP PIEETdSHIRAE
dNTAPdSHOQ NSHUT YUMdNYIT MONGKEUAEQdPAARAEdNKAARAEdUNKNOWNdNGGENdMAESIdNJAMdMBANYIdNYETdTEUAEN
dSOTdPAAMdNSHIEEdMAEMdNYIdKAQdNSHAdVEEdLUdNENdNAQdMBAQcPHASE-B NSHUETdTU MAEMGBIEEdSIEEdSET TU
dLOM NTEUMdMBA MAELEEdKIEEMdYEURAEdMBAARAEdKAMdPEESHIdYAFU LEERAEWAdLAM NSHUT NYAMdNTIEE SHEUOQ
dNDU NJAAdGHEUGHEUAEMdPITdTU NSIEEdSHET NJAQdSHEUAEQTUdMFON TEUAEQdMBIT MBAAKETdNYI NTEUMdKEUPUQ
dGHEUGHENdKEUYEUXdLAANAEdPARUMdVEUMdNGKINDI MVOPdNGGEU MBUdWUAETdSAKEUAEdTAAMdMEUQdNGGUOQeLARGE
dMFIYAQdSUEdMBEURIdMONTIEENdNYAEMAEdPUNGAAMdMEUT NGGEETdFEUXdMBUOQdFEEdKEUAEMdMA NJEUAENAeNJUQA
dLETdNGGAAMdNSENdMAdKIQdNGOMcPHASE-C NGKUE MAEMBAdNZAdYUMdWANGKUOQdNGGENdNDEUAEREEdNGKAQdGHARAE
dMBEEKEETdGBAYIdNYIR MKPARAQ MEUNdNTU MBITdMBEUMdPIRIEENdNDOMBUdMBAA CABBAGE-TREEdKEUSHEUAEPdGHAP
dKEUKAQdYU MUOMAEdNZEUMdMBUEdNSEUAENdMBITdYEUQdKPARAQdKAAdSEUXdNDIDAdTAASHAEdNJUEQdTITA YUEdSUAET
dNGGUAEN NYAMdVEUXdNANSANAQdMA KEUAERIdNTAAdNGGUONdLAPdMBIRIEENdMGBASAQdNTEUNGBAdTEUTEUXdNGGUMdFUE
dNDEUTdNSAdNSHAQdBUNGdVEUAEPENdMBERAEdRUdNJAEMdLAMdTITUAEPdNSUOT NGOMdNJEEEEdKETdNGGUdMAESIdMBUAEM
dLUdKUTdNJAMdNGOMdWUPdNGGUEETdNSOMdNTENdKUOP NKAARAEdNSUNdNDAMdMA NSIEEdYAAdNDAPdSHUEQdSETFONdMBI
dMAEMBAdMBANYIdKEUSEUXdMBEUXdKEUMdMBAA PICKETdYUWOQdNJEUXdMIEEdMUAEdSHIQdKEN LAWeFATIGUEdNGAQdNAQ
dLIQdPINdPENdTETcPHASE-D MBUOdWAPdNJIdMFONdNJIEEdLIEEdNJEUTdNSHEEdNGGAAMAEdNYAMdWUAENdNGKUNdSHEE
dNGKAPdKEUAETMEUNdTEUTdSHEUAEdNJAPdSUEdKETdYAEMMAEdKUOMdSAPdMFEUTdNDEUXdMALEERIdMEUTdSEUAEQdYEN
dNJEUAEMdKEUOT MBUAEdNGKEURIdTUdGHAAdNGKYEEdFEUFEUAETdNDEEdMGBOFUMdLEUAEPdNDONdMONIdMGBEUNdPUUT
dMGBIEEdMFOdLUMdNSIEEPdMBAAdKWAETdNYETdTEUAENdSOTdYUWOQdKEUMdRAEMdTEEEEdNGKEUAEQdMFEUAEdNSIEET
dKEUPdPIPdPEUTAEdNYUEdLETdNGGAAMdMFIEEdNGGWAENdYUOMdPAPdYUOPdNDAMdNTEUMdSUAEdKUNdNGGEUXdNGKIEE
dTUOTdMEUNdKUQdNSUMdTEUNdMAENJETdNGGAPdLEUMdNGGUOMdNSHUTdNJUEQdGHEUAEdKUdREN OLDdTAEdTOQdNYIdRII
dLEEEEdMEEEEdMdSUUdMUdSHIIdSHEUXdKYEEdNUdSHUdNTEEdPEEdNIdSHOQdPUQdMVOPdLOQdREN MUCHdTIdNTUU
dMBAA SEVENdSAQdFAAcPHASE-E NDAPdTOONdMBEUMdLAPdVOMdLOONdPAAdSOMdRAQdNSHUOPdNDUNdPUAEdTAMdNGKA
dKPEUXdWUOdSEEdNGGEUAETdPAAMdTOOdKUOPdLOMdNSHIEEdNGOPdMAEMdNGKEUXdNGOQdNSHUEdRIMGBAdNJEUXdPEEMdSAA
dNGGURAEdMGBAdGHEUXdNGKEUAEMdNJAEMLIdMAPdLOOTdNGGEEEEdNDIQdTAEN NTEUMdSETdPUMdNDAA SOFTNESS
dNGGUAESHAE NYAMdYIEEdGHEUNdTUAEdYEUAEdPOdTUMAEdKEUAEdSUAENdTEUAEQdVEUAEdWEUXdLAAMdPUdTAAQdGHAAMAE
dNGEUREUTdSHEUAEQdMGBENdMBEEdNZAQdNKOMdGBETdTUMdKUETdYAPdNYI CLEAVERdYITdMFEUQdNDIAQdPIEEQdYUEQ
dLEUAEMdFUEdGBEUXdNGKUPdKETdMAEdNGKAAMIdGHETdFAdNTUMdPEUTdYEUMdNGGEUAEdNYI BETWEENdNZUQdPOONdMIEE
dFUETdNAEdMUAEdGHEUAEdFU IdMVIdPUAQdNGKUMdKUTdPIETdNTAPdYEUAETdNGGUPdPA PEOPLEdFU CALLdFOMdNJEEdA
dTOQdOdIdLAQdPA PLURALdTAAdTAQdNDAA MY HOUSEdSHIQdYEUXdNGUAEdYUAENdYOQ SWIMMINGeCOVERdYUQdYUNdKEUX
dPEUXdNJEE EPOCHdPUEdWUEdFEEdVEEdLUdMIdREUXdRAEdNGUAETdNGAdSHOdSHOQdFU REMEDYdNAdPIdLOQdKOdMENdMA
dMAQdTEUdKIdMONdTENdFAQdGHOMcPHASE-F KAdUdKUdEEdREEdTAEdNYIdLAdRIIdRIEEdMEEEEdTAAdNDAAdNJAEMdMdSUU
dSHIIdSIdSEUXdKYEEdKETdNUAEdNUdNJUAEdYOQdSHUdYAdNSHAdPEUXdNTEEdWUEdPEEdRUdNIdREUXdKENdNGKWAENdNGGA
dSHOdPUAEdFOMdWAdLIdLOQdKOdMBENdRENdMAdMOdMBAAdTETdKPAdSAMBAdVUEQ
16A40aMRO LETTER TAcNGIcYOcMIMcBAcDAcAcPHIcKHAIcHAOcDAIcCHUcKEAAEcOLcMAEMcNINcPAcOOcOcROcSHIcTHEA
cEAcWAcEcKOcLANcLAcHAIcRIcTEK
16A60bDIGIT ZEROcONEcTWOcTHREEcFOURcFIVEcSIXcSEVENcEIGHTcNINE
16A6EbDANDAbDOUBLE.aTANGSA LETTER OZcOCcOQcOXcAZcACcAQcAXcVZcVCcVQcVXcEZcECcEQcEXcIZcICcIQcIXcUZ
cUCcUQcUXcAWZcAWCcAWQcAWXcUIZcUICcUIQcUIXcFINAL NGcLONG UEXcSHORT UEZdAWXcUECcUEZcUEQcUEXcUIUZ
cUIUCcUIUQcUIUXcMZcMCcMQcMXcKAcKHAcGAcNGAcSAcYAcWAcPAcNYAcPHAcBAcMAcNAcHAcLAcHTAcTAcDAcRAcNHAcSHA
cCAcTSAcGHAcHTTAcTHAcXAcFAcDHAcCHAcZA
16AC0bDIGIT ZEROcONEcTWOcTHREEcFOURcFIVEcSIXcSEVENcEIGHTcNINE
16AD0aBASSA VAH LETTER ENNIdKAdSEdFAdMBEdYIEdGAHdDHIIdKPAHdJOdHWAHdWAdZOdGBUdDOdCEdUWUdTOdBAdVU
dYEINdPAdWADDAdAdOdOOdUdEEdEdI
16AF0cCOMBINING HIGH TONEdLOW.dMID.dLOW-MID.dHIGH-LOW.cFULL STOP
16B00aPAHAWH HMONG VOWEL KEEBdKEEVdKIBdKIVdKAUBdKAUVdKUBdKUVdKEBdKEVdKAIBdKAIVdKOOBdKOOVdKAWBdKAWV
dKUABdKUAVdKOBdKOVdKIABdKIAVdKABdKAVdKWBdKWVdKAABdKAAVcCONSONANT VAUdNTSAUdLAUdHAUdNLAUdRAUdNKAU
dQHAUdYAUdHLAUdMAUdCHAUdNCHAUdHNAUdPLHAUdNTHAUdNAUdAUdXAUdCAUcMARK CIM TUBeSOeKESeKHAVeSUAMeHOM
eTAUMcSIGN VOS THOMeTSHAB CEEBdCIM CHEEMdVOS THIABeFEEMdXYEEM NTXIVeRHOeTOVeFAIBdVOS SEEV
dMEEJ SUABdVOS NRUAdIB YAMdXAUSdCIM TSOV ROG
16B50cDIGIT ZEROdONEdTWOdTHREEdFOURdFIVEdSIXdSEVENdEIGHTdNINE
16B5BcNUMBER TENSdHUNDREDSdTEN THOUSANDSdMILLIONSdHUNDRED.dTEN BILLIONSdTRILLIONS
16B63cSIGN VOS LUBdXYOOdHLIdTHIRD-STAGE.dZWJ THAJdHNUBdNQIGdXIABdNTUJdAVdTXHEEJ CEEVdMEEJ TSEEB
dTAUdLOSdMUSdCIM HAIS LUS NTOG NTOGeCUAM TSHOOJeTXWVfCHWVePUB DAWBeNRES TOS
16B7DcCLAN SIGN TSHEEJeYEEGeLISeLAUJeXYOOJeKOOeHAWJeMUASeTHOJeTSABePHABeKHABeHAMeVAJeFAJeYAJeTSWB
eKWMeVWJ
16E40aMEDEFAIDRIN CAPITAL LETTER MdSdVdWdATIUdZdKPdPdTdGdFdIdKdAdJdEdBdCdUdYUdLdQdHPdNYdXdDdOEdNdR
dOdAIdYbSMALL LETTER MdSdVdWdATIUdZdKPdPdTdGdFdIdKdAdJdEdBdCdUdYUdLdQdHPdNYdXdDdOEdNdRdOdAIdY
bDIGIT ZEROcONEcTWOcTHREEcFOURcFIVEcSIXcSEVENcEIGHTcNINEbNUMBER TENcELEVENcTWELVEcTHIRTEEN
cFOURTEENcFIFTEENcSIXTEENcSEVENTEENcEIGHTEENcNINETEENbDIGIT ONE ALTERNATE FORMcTWO..cTHREE..bCOMMA
bFULL STOPbSYMBOL AIVAbEXCLAMATION OH
16F00aMIAO LETTER PAcBAcYI PAcPLAcMAcMHAcARCHAIC MAcFAcVAcVFAcTAcDAcYI TTAdTAcTTAcDDAcNAcNHA
cYI NNAcARCHAIC NAcNNAcNNHAcLAcLYAcLHAcLHYAcTLHAcDLHAcTLHYAcDLHYAcKAcGAcYI KAcQAcQGAcNGAcNGHA
cARCHAIC NGAcHAcXAcGHAcGHHAcTSSAcDZZAcNYAcNYHAcTSHAcDZHAcYI TSHAdDZHAcREFORMED TSHAcSHAcSSAcZHA
cZSHAcTSAcDZAcYI TSAcSAcZAcZSAcZZAcZZSAcARCHAIC ZZAcZZYAcZZSYAcWAcAHcHHAcBRIcSYIcDZYIcTEcTSEcRTE
16F4FbSIGN CONSONANT MODIFIER BARbLETTER NASALIZATIONbSIGN ASPIRATIONcREFORMED VOICINGdASPIRATION
bVOWEL SIGN AdAAdAHHdANdANGdOdOOdWOdWdEdENdENGdOEYdIdIAdIANdIANGdIOdIEdIIdIUdINGdUdUAdUANdUANGdUU
dUEIdUNGdYdYIdAEdAEEdERRdROUNDED.dERdROUNDED.dAIdEIdAUdOUdNdNGdUOGdYUIdOGdOERdVWdIGdEAdIONGdUI
16F8FbTONE RIGHTcTOP.cABOVEcBELOWbLETTER TONE-2cTONE-3cTONE-4cTONE-5cTONE-6cTONE-7cTONE-8
cREFORMED TONE-1dTONE-2dTONE-4dTONE-5dTONE-6dTONE-8
16FE0aTANGUT ITERATION MARKaNUSHU..aOLD CHINESE HOOK.cITERATION.aKHITAN SMALL SCRIPT FILLER
16FF0aVIETNAMESE ALTERNATE READING MARK CAeNHAY
18800aTANGUT COMPONENT-001bCOMPONENT-002bCOMPONENT-003bCOMPONENT-004bCOMPONENT-005bCOMPONENT-006
bCOMPONENT-007bCOMPONENT-008bCOMPONENT-009bCOMPONENT-010bCOMPONENT-011bCOMPONENT-012bCOMPONENT-013
bCOMPONENT-014bCOMPONENT-015bCOMPONENT-016bCOMPONENT-017bCOMPONENT-018bCOMPONENT-019bCOMPONENT-020
bCOMPONENT-021bCOMPONENT-022bCOMPONENT-023bCOMPONENT-024bCOMPONENT-025bCOMPONENT-026bCOMPONENT-027
bCOMPONENT-028bCOMPONENT-029bCOMPONENT-030bCOMPONENT-031bCOMPONENT-032bCOMPONENT-033bCOMPONENT-034
bCOMPONENT-035bCOMPONENT-036bCOMPONENT-037bCOMPONENT-038bCOMPONENT-039bCOMPONENT-040bCOMPONENT-041
bCOMPONENT-042bCOMPONENT-043bCOMPONENT-044bCOMPONENT-045bCOMPONENT-046bCOMPONENT-047bCOMPONENT-048
bCOMPONENT-049bCOMPONENT-050bCOMPONENT-051bCOMPONENT-052bCOMPONENT-053bCOMPONENT-054bCOMPONENT-055
bCOMPONENT-056bCOMPONENT-057bCOMPONENT-058bCOMPONENT-059bCOMPONENT-060bCOMPONENT-061bCOMPONENT-062
bCOMPONENT-063bCOMPONENT-064bCOMPONENT-065bCOMPONENT-066bCOMPONENT-067bCOMPONENT-068bCOMPONENT-069
bCOMPONENT-070bCOMPONENT-071bCOMPONENT-072bCOMPONENT-073bCOMPONENT-074bCOMPONENT-075bCOMPONENT-076
bCOMPONENT-077bCOMPONENT-078bCOMPONENT-079bCOMPONENT-080bCOMPONENT-081bCOMPONENT-082bCOMPONENT-083
bCOMPONENT-084bCOMPONENT-085bCOMPONENT-086bCOMPONENT-087bCOMPONENT-088bCOMPONENT-089bCOMPONENT-090
bCOMPONENT-091bCOMPONENT-092bCOMPONENT-093bCOMPONENT-094bCOMPONENT-095bCOMPONENT-096bCOMPONENT-097
bCOMPONENT-098bCOMPONENT-099bCOMPONENT-100bCOMPONENT-101bCOMPONENT-102bCOMPONENT-103bCOMPONENT-104
bCOMPONENT-105bCOMPONENT-106bCOMPONENT-107bCOMPONENT-108bCOMPONENT-109bCOMPONENT-110bCOMPONENT-111
bCOMPONENT-112bCOMPONENT-113bCOMPONENT-114bCOMPONENT-115bCOMPONENT-116bCOMPONENT-117bCOMPONENT-118
bCOMPONENT-119bCOMPONENT-120bCOMPONENT-121bCOMPONENT-122bCOMPONENT-123bCOMPONENT-124bCOMPONENT-125
bCOMPONENT-126bCOMPONENT-127bCOMPONENT-128bCOMPONENT-129bCOMPONENT-130bCOMPONENT-131bCOMPONENT-132
bCOMPONENT-133bCOMPONENT-134bCOMPONENT-135bCOMPONENT-136bCOMPONENT-137bCOMPONENT-138bCOMPONENT-139
bCOMPONENT-140bCOMPONENT-141bCOMPONENT-142bCOMPONENT-143bCOMPONENT-144bCOMPONENT-145bCOMPONENT-146
bCOMPONENT-147bCOMPONENT-148bCOMPONENT-149bCOMPONENT-150bCOMPONENT-151bCOMPONENT-152bCOMPONENT-153
bCOMPONENT-154bCOMPONENT-155bCOMPONENT-156bCOMPONENT-157bCOMPONENT-158bCOMPONENT-159bCOMPONENT-160
bCOMPONENT-161bCOMPONENT-162bCOMPONENT-163bCOMPONENT-164bCOMPONENT-165bCOMPONENT-166bCOMPONENT-167
bCOMPONENT-168bCOMPONENT-169bCOMPONENT-170bCOMPONENT-171bCOMPONENT-172bCOMPONENT-173bCOMPONENT-174
bCOMPONENT-175bCOMPONENT-176bCOMPONENT-177bCOMPONENT-178bCOMPONENT-179bCOMPONENT-180bCOMPONENT-181
bCOMPONENT-182bCOMPONENT-183bCOMPONENT-184bCOMPONENT-185bCOMPONENT-186bCOMPONENT-187bCOMPONENT-188
bCOMPONENT-189bCOMPONENT-190bCOMPONENT-191bCOMPONENT-192bCOMPONENT-193bCOMPONENT-194bCOMPONENT-195
bCOMPONENT-196bCOMPONENT-197bCOMPONENT-198bCOMPONENT-199bCOMPONENT-200bCOMPONENT-201bCOMPONENT-202
bCOMPONENT-203bCOMPONENT-204bCOMPONENT-205bCOMPONENT-206bCOMPONENT-207bCOMPONENT-208bCOMPONENT-209
bCOMPONENT-210bCOMPONENT-211bCOMPONENT-212bCOMPONENT-213bCOMPONENT-214bCOMPONENT-215bCOMPONENT-216
bCOMPONENT-217bCOMPONENT-218bCOMPONENT-219bCOMPONENT-220bCOMPONENT-221bCOMPONENT-222bCOMPONENT-223
bCOMPONENT-224bCOMPONENT-225bCOMPONENT-226bCOMPONENT-227bCOMPONENT-228bCOMPONENT-229bCOMPONENT-230
bCOMPONENT-231bCOMPONENT-232bCOMPONENT-233bCOMPONENT-234bCOMPONENT-235bCOMPONENT-236bCOMPONENT-237
bCOMPONENT-238bCOMPONENT-239bCOMPONENT-240bCOMPONENT-241bCOMPONENT-242bCOMPONENT-243bCOMPONENT-244
bCOMPONENT-245bCOMPONENT-246bCOMPONENT-247bCOMPONENT-248bCOMPONENT-249bCOMPONENT-250bCOMPONENT-251
bCOMPONENT-252bCOMPONENT-253bCOMPONENT-254bCOMPONENT-255bCOMPONENT-256bCOMPONENT-257bCOMPONENT-258
bCOMPONENT-259bCOMPONENT-260bCOMPONENT-261bCOMPONENT-262bCOMPONENT-263bCOMPONENT-264bCOMPONENT-265
bCOMPONENT-266bCOMPONENT-267bCOMPONENT-268bCOMPONENT-269bCOMPONENT-270bCOMPONENT-271bCOMPONENT-272
bCOMPONENT-273bCOMPONENT-274bCOMPONENT-275bCOMPONENT-276bCOMPONENT-277bCOMPONENT-278bCOMPONENT-279
bCOMPONENT-280bCOMPONENT-281bCOMPONENT-282bCOMPONENT-283bCOMPONENT-284bCOMPONENT-285bCOMPONENT-286
bCOMPONENT-287bCOMPONENT-288bCOMPONENT-289bCOMPONENT-290bCOMPONENT-291bCOMPONENT-292bCOMPONENT-293
bCOMPONENT-294bCOMPONENT-295bCOMPONENT-296bCOMPONENT-297bCOMPONENT-298bCOMPONENT-299bCOMPONENT-300
bCOMPONENT-301bCOMPONENT-302bCOMPONENT-303bCOMPONENT-304bCOMPONENT-305bCOMPONENT-306bCOMPONENT-307
bCOMPONENT-308bCOMPONENT-309bCOMPONENT-310bCOMPONENT-311bCOMPONENT-312bCOMPONENT-313bCOMPONENT-314
bCOMPONENT-315bCOMPONENT-316bCOMPONENT-317bCOMPONENT-318bCOMPONENT-319bCOMPONENT-320bCOMPONENT-321
bCOMPONENT-322bCOMPONENT-323bCOMPONENT-324bCOMPONENT-325bCOMPONENT-326bCOMPONENT-327bCOMPONENT-328
bCOMPONENT-329bCOMPONENT-330bCOMPONENT-331bCOMPONENT-332bCOMPONENT-333bCOMPONENT-334bCOMPONENT-335
bCOMPONENT-336bCOMPONENT-337bCOMPONENT-338bCOMPONENT-339bCOMPONENT-340bCOMPONENT-341bCOMPONENT-342
bCOMPONENT-343bCOMPONENT-344bCOMPONENT-345bCOMPONENT-346bCOMPONENT-347bCOMPONENT-348bCOMPONENT-349
bCOMPONENT-350bCOMPONENT-351bCOMPONENT-352bCOMPONENT-353bCOMPONENT-354bCOMPONENT-355bCOMPONENT-356
bCOMPONENT-357bCOMPONENT-358bCOMPONENT-359bCOMPONENT-360bCOMPONENT-361bCOMPONENT-362bCOMPONENT-363
bCOMPONENT-364bCOMPONENT-365bCOMPONENT-366bCOMPONENT-367bCOMPONENT-368bCOMPONENT-369bCOMPONENT-370
bCOMPONENT-371bCOMPONENT-372bCOMPONENT-373bCOMPONENT-374bCOMPONENT-375bCOMPONENT-376bCOMPONENT-377
bCOMPONENT-378bCOMPONENT-379bCOMPONENT-380bCOMPONENT-381bCOMPONENT-382bCOMPONENT-383bCOMPONENT-384
bCOMPONENT-385bCOMPONENT-386bCOMPONENT-387bCOMPONENT-388bCOMPONENT-389bCOMPONENT-390bCOMPONENT-391
bCOMPONENT-392bCOMPONENT-393bCOMPONENT-394bCOMPONENT-395bCOMPONENT-396bCOMPONENT-397bCOMPONENT-398
bCOMPONENT-399bCOMPONENT-400bCOMPONENT-401bCOMPONENT-402bCOMPONENT-403bCOMPONENT-404bCOMPONENT-405
bCOMPONENT-406bCOMPONENT-407bCOMPONENT-408bCOMPONENT-409bCOMPONENT-410bCOMPONENT-411bCOMPONENT-412
bCOMPONENT-413bCOMPONENT-414bCOMPONENT-415bCOMPONENT-416bCOMPONENT-417bCOMPONENT-418bCOMPONENT-419
bCOMPONENT-420bCOMPONENT-421bCOMPONENT-422bCOMPONENT-423bCOMPONENT-424bCOMPONENT-425bCOMPONENT-426
bCOMPONENT-427bCOMPONENT-428bCOMPONENT-429bCOMPONENT-430bCOMPONENT-431bCOMPONENT-432bCOMPONENT-433
bCOMPONENT-434bCOMPONENT-435bCOMPONENT-436bCOMPONENT-437bCOMPONENT-438bCOMPONENT-439bCOMPONENT-440
bCOMPONENT-441bCOMPONENT-442bCOMPONENT-443bCOMPONENT-444bCOMPONENT-445bCOMPONENT-446bCOMPONENT-447
bCOMPONENT-448bCOMPONENT-449bCOMPONENT-450bCOMPONENT-451bCOMPONENT-452bCOMPONENT-453bCOMPONENT-454
bCOMPONENT-455bCOMPONENT-456bCOMPONENT-457bCOMPONENT-458bCOMPONENT-459bCOMPONENT-460bCOMPONENT-461
bCOMPONENT-462bCOMPONENT-463bCOMPONENT-464bCOMPONENT-465bCOMPONENT-466bCOMPONENT-467bCOMPONENT-468
bCOMPONENT-469bCOMPONENT-470bCOMPONENT-471bCOMPONENT-472bCOMPONENT-473bCOMPONENT-474bCOMPONENT-475
bCOMPONENT-476bCOMPONENT-477bCOMPONENT-478bCOMPONENT-479bCOMPONENT-480bCOMPONENT-481bCOMPONENT-482
bCOMPONENT-483bCOMPONENT-484bCOMPONENT-485bCOMPONENT-486bCOMPONENT-487bCOMPONENT-488bCOMPONENT-489
bCOMPONENT-490bCOMPONENT-491bCOMPONENT-492bCOMPONENT-493bCOMPONENT-494bCOMPONENT-495bCOMPONENT-496
bCOMPONENT-497bCOMPONENT-498bCOMPONENT-499bCOMPONENT-500bCOMPONENT-501bCOMPONENT-502bCOMPONENT-503
bCOMPONENT-504bCOMPONENT-505bCOMPONENT-506bCOMPONENT-507bCOMPONENT-508bCOMPONENT-509bCOMPONENT-510
bCOMPONENT-511bCOMPONENT-512bCOMPONENT-513bCOMPONENT-514bCOMPONENT-515bCOMPONENT-516bCOMPONENT-517
bCOMPONENT-518bCOMPONENT-519bCOMPONENT-520bCOMPONENT-521bCOMPONENT-522bCOMPONENT-523bCOMPONENT-524
bCOMPONENT-525bCOMPONENT-526bCOMPONENT-527bCOMPONENT-528bCOMPONENT-529bCOMPONENT-530bCOMPONENT-531
bCOMPONENT-532bCOMPONENT-533bCOMPONENT-534bCOMPONENT-535bCOMPONENT-536bCOMPONENT-537bCOMPONENT-538
bCOMPONENT-539bCOMPONENT-540bCOMPONENT-541bCOMPONENT-542bCOMPONENT-543bCOMPONENT-544bCOMPONENT-545
bCOMPONENT-546bCOMPONENT-547bCOMPONENT-548bCOMPONENT-549bCOMPONENT-550bCOMPONENT-551bCOMPONENT-552
bCOMPONENT-553bCOMPONENT-554bCOMPONENT-555bCOMPONENT-556bCOMPONENT-557bCOMPONENT-558bCOMPONENT-559
bCOMPONENT-560bCOMPONENT-561bCOMPONENT-562bCOMPONENT-563bCOMPONENT-564bCOMPONENT-565bCOMPONENT-566
bCOMPONENT-567bCOMPONENT-568bCOMPONENT-569bCOMPONENT-570bCOMPONENT-571bCOMPONENT-572bCOMPONENT-573
bCOMPONENT-574bCOMPONENT-575bCOMPONENT-576bCOMPONENT-577bCOMPONENT-578bCOMPONENT-579bCOMPONENT-580
bCOMPONENT-581bCOMPONENT-582bCOMPONENT-583bCOMPONENT-584bCOMPONENT-585bCOMPONENT-586bCOMPONENT-587
bCOMPONENT-588bCOMPONENT-589bCOMPONENT-590bCOMPONENT-591bCOMPONENT-592bCOMPONENT-593bCOMPONENT-594
bCOMPONENT-595bCOMPONENT-596bCOMPONENT-597bCOMPONENT-598bCOMPONENT-599bCOMPONENT-600bCOMPONENT-601
bCOMPONENT-602bCOMPONENT-603bCOMPONENT-604bCOMPONENT-605bCOMPONENT-606bCOMPONENT-607bCOMPONENT-608
bCOMPONENT-609bCOMPONENT-610bCOMPONENT-611bCOMPONENT-612bCOMPONENT-613bCOMPONENT-614bCOMPONENT-615
bCOMPONENT-616bCOMPONENT-617bCOMPONENT-618bCOMPONENT-619bCOMPONENT-620bCOMPONENT-621bCOMPONENT-622
bCOMPONENT-623bCOMPONENT-624bCOMPONENT-625bCOMPONENT-626bCOMPONENT-627bCOMPONENT-628bCOMPONENT-629
bCOMPONENT-630bCOMPONENT-631bCOMPONENT-632bCOMPONENT-633bCOMPONENT-634bCOMPONENT-635bCOMPONENT-636
bCOMPONENT-637bCOMPONENT-638bCOMPONENT-639bCOMPONENT-640bCOMPONENT-641bCOMPONENT-642bCOMPONENT-643
bCOMPONENT-644bCOMPONENT-645bCOMPONENT-646bCOMPONENT-647bCOMPONENT-648bCOMPONENT-649bCOMPONENT-650
bCOMPONENT-651bCOMPONENT-652bCOMPONENT-653bCOMPONENT-654bCOMPONENT-655bCOMPONENT-656bCOMPONENT-657
bCOMPONENT-658bCOMPONENT-659bCOMPONENT-660bCOMPONENT-661bCOMPONENT-662bCOMPONENT-663bCOMPONENT-664
bCOMPONENT-665bCOMPONENT-666bCOMPONENT-667bCOMPONENT-668bCOMPONENT-669bCOMPONENT-670bCOMPONENT-671
bCOMPONENT-672bCOMPONENT-673bCOMPONENT-674bCOMPONENT-675bCOMPONENT-676bCOMPONENT-677bCOMPONENT-678
bCOMPONENT-679bCOMPONENT-680bCOMPONENT-681bCOMPONENT-682bCOMPONENT-683bCOMPONENT-684bCOMPONENT-685
bCOMPONENT-686bCOMPONENT-687bCOMPONENT-688bCOMPONENT-689bCOMPONENT-690bCOMPONENT-691bCOMPONENT-692
bCOMPONENT-693bCOMPONENT-694bCOMPONENT-695bCOMPONENT-696bCOMPONENT-697bCOMPONENT-698bCOMPONENT-699
bCOMPONENT-700bCOMPONENT-701bCOMPONENT-702bCOMPONENT-703bCOMPONENT-704bCOMPONENT-705bCOMPONENT-706
bCOMPONENT-707bCOMPONENT-708bCOMPONENT-709bCOMPONENT-710bCOMPONENT-711bCOMPONENT-712bCOMPONENT-713
bCOMPONENT-714bCOMPONENT-715bCOMPONENT-716bCOMPONENT-717bCOMPONENT-718bCOMPONENT-719bCOMPONENT-720
bCOMPONENT-721bCOMPONENT-722bCOMPONENT-723bCOMPONENT-724bCOMPONENT-725bCOMPONENT-726bCOMPONENT-727
bCOMPONENT-728bCOMPONENT-729bCOMPONENT-730bCOMPONENT-731bCOMPONENT-732bCOMPONENT-733bCOMPONENT-734
bCOMPONENT-735bCOMPONENT-736bCOMPONENT-737bCOMPONENT-738bCOMPONENT-739bCOMPONENT-740bCOMPONENT-741
bCOMPONENT-742bCOMPONENT-743bCOMPONENT-744bCOMPONENT-745bCOMPONENT-746bCOMPONENT-747bCOMPONENT-748
bCOMPONENT-749bCOMPONENT-750bCOMPONENT-751bCOMPONENT-752bCOMPONENT-753bCOMPONENT-754bCOMPONENT-755
bCOMPONENT-756bCOMPONENT-757bCOMPONENT-758bCOMPONENT-759bCOMPONENT-760bCOMPONENT-761bCOMPONENT-762
bCOMPONENT-763bCOMPONENT-764bCOMPONENT-765bCOMPONENT-766bCOMPONENT-767bCOMPONENT-768
1AFF0aKATAKANA LETTER MINNAN TONE-2dTONE-3dTONE-4dTONE-5
1AFF5dTONE-7dTONE-8dNASALIZED TONE-1eTONE-2eTONE-3eTONE-4eTONE-5
1AFFDeTONE-7eTONE-8
1B000cARCHAIC EaHIRAGANA LETTER ARCHAIC YEaHENTAIGANA LETTER A-1cA-2cA-3cA-WOcI-1cI-2cI-3cI-4cU-1
cU-2cU-3cU-4cU-5cE-2cE-3cE-4cE-5cE-6cO-1cO-2cO-3cKA-1cKA-2cKA-3cKA-4cKA-5cKA-6cKA-7cKA-8cKA-9
cKA-10cKA-11cKA-KEcKI-1cKI-2cKI-3cKI-4cKI-5cKI-6cKI-7cKI-8cKU-1cKU-2cKU-3cKU-4cKU-5cKU-6cKU-7cKE-1
cKE-2cKE-3cKE-4cKE-5cKE-6cKO-1cKO-2cKO-3cKO-KIcSA-1cSA-2cSA-3cSA-4cSA-5cSA-6cSA-7cSA-8cSI-1cSI-2
cSI-3cSI-4cSI-5cSI-6cSU-1cSU-2cSU-3cSU-4cSU-5cSU-6cSU-7cSU-8cSE-1cSE-2cSE-3cSE-4cSE-5cSO-1cSO-2
cSO-3cSO-4cSO-5cSO-6cSO-7cTA-1cTA-2cTA-3cTA-4cTI-1cTI-2cTI-3cTI-4cTI-5cTI-6cTI-7cTU-1cTU-2cTU-3
cTU-4cTU-TOcTE-1cTE-2cTE-3cTE-4cTE-5cTE-6cTE-7cTE-8cTE-9cTO-1cTO-2cTO-3cTO-4cTO-5cTO-6cTO-RAcNA-1
cNA-2cNA-3cNA-4cNA-5cNA-6cNA-7cNA-8cNA-9cNI-1cNI-2cNI-3cNI-4cNI-5cNI-6cNI-7cNI-TEcNU-1cNU-2cNU-3
cNE-1cNE-2cNE-3cNE-4cNE-5cNE-6cNE-KOcNO-1cNO-2cNO-3cNO-4cNO-5cHA-1cHA-2cHA-3cHA-4cHA-5cHA-6cHA-7
cHA-8cHA-9cHA-10cHA-11cHI-1cHI-2cHI-3cHI-4cHI-5cHI-6cHI-7cHU-1cHU-2cHU-3cHE-1cHE-2cHE-3cHE-4cHE-5
cHE-6cHE-7cHO-1cHO-2cHO-3cHO-4cHO-5cHO-6cHO-7cHO-8cMA-1cMA-2cMA-3cMA-4cMA-5cMA-6cMA-7cMI-1cMI-2
cMI-3cMI-4cMI-5cMI-6cMI-7cMU-1cMU-2cMU-3cMU-4cME-1cME-2cME-MAcMO-1cMO-2cMO-3cMO-4cMO-5cMO-6cYA-1
cYA-2cYA-3cYA-4cYA-5cYA-YOcYU-1cYU-2cYU-3cYU-4cYO-1cYO-2cYO-3cYO-4cYO-5cYO-6cRA-1cRA-2cRA-3cRA-4
cRI-1cRI-2cRI-3cRI-4cRI-5cRI-6cRI-7cRU-1cRU-2cRU-3cRU-4cRU-5cRU-6cRE-1cRE-2cRE-3cRE-4cRO-1cRO-2
cRO-3cRO-4cRO-5cRO-6cWA-1cWA-2cWA-3cWA-4cWA-5cWI-1cWI-2cWI-3cWI-4cWI-5cWE-1cWE-2cWE-3cWE-4cWO-1
cWO-2cWO-3cWO-4cWO-5cWO-6cWO-7cN-MU-MO-1cN-MU-MO-2aHIRAGANA LETTER ARCHAIC WU
aKATAKANA LETTER ARCHAIC YIdYEdWU
1B150aHIRAGANA LETTER SMALL WIdWEdWO
1B164aKATAKANA LETTER SMALL WIdWEdWOdN
1BC00aDUPLOYAN LETTER HcXcPcTcFcKcLcBcDcVcGcRcP NcD ScF NcK McR ScTHcSLOAN DHc.cKKcSLOAN JcHLcLH
cRHcMcNcJcScM NcN McJ.cS JcM WITH DOTcN..cJ..eDOTS INSIDE AND ABOVEcS WITH DOTfBELOWcM ScN.cJ.cS.
cM N.cN M.cJ..cS J.cJ S WITH DOTdNeScS TeRdPeRcT SdR.cWcWHcW RcS NdMcK R ScG..cS KeRcAcSLOAN OWcOA
cOcAOUcIcEcIEcSHORT IcUIcEEcSLOAN EHcROMANIAN IcSLOAN EEcLONG IcYEcUcEUcXWcU NcLONG UcROMANIAN.cUH
cSLOAN UcOOHcOWcOUcWAcWOcWIcWEIcWOWcNASAL UdOdIdAcPERNIN ANdAMcSLOAN ENdANdONcVOCALIC M
1BC70bAFFIX LEFT HORIZONTAL SECANTcMID..cRIGHT..cLOW VERTICAL.cMID..cHIGH..cATTACHED.
dLEFT-TO-RIGHT.dTANGENTdTAILdE HOOKdI.dTANGENT.
1BC80cHIGH ACUTEdTIGHT.dGRAVEdLONG.dDOTdCIRCLEdLINEdWAVEdVERTICAL
1BC90cLOW ACUTEdTIGHT.dGRAVEdLONG.dDOTdCIRCLEdLINEdWAVEdVERTICALdARROW
1BC9CbSIGN O WITH CROSSbTHICK LETTER SELECTORbDOUBLE MARKbPUNCTUATION CHINOOK FULL STOP
aSHORTHAND FORMAT LETTER OVERLAPcCONTINUING.cDOWN STEPcUP.
1CF00aZNAMENNY COMBINING MARK GORAZDO NIZKO S KRYZHEM ON LEFTd.....dTSATA..dGORAZDO NIZKO..d...
dSREDNE..dMALO POVYSHE..d...dVYSOKO..dMALO POVYSHE S KHOKHLOM..d.....dVYSOKO....
dGORAZDO NIZKO S KRYZHEM ON RIGHTd.....dTSATA..dGORAZDO NIZKO..d...dSREDNE..dMALO POVYSHE..d...
dVYSOKO..dMALO POVYSHE S KHOKHLOM..d.....dVYSOKO....dTSATA S KRYZHEMdMALO POVYSHE..
dSTRANNO MALO POVYSHEdPOVYSHE S KRYZHEMeSTRANNOdVYSOKO S KRYZHEMdMALO POVYSHE STRANNO
dGORAZDO VYSOKOdZELOdONdRAVNOdTIKHAYAdBORZAYAdUDARKAdPODVERTKAdLOMKAdKUPNAYAdKACHKAdZEVOKdSKOBA
dRAZSEKAdKRYZH ON LEFT
1CF30cTONAL RANGE MARK MRACHNOfSVETLOfTRESVETLOcMARK ZADERZHKAdDEMESTVENNY.dOTSECHKAdPODCHASHIE
eWITH VERTICAL STROKEdCHASHKAePOLNAYAdOBLACHKOdSOROCHYA NOZHKAdTOCHKAdDVOETOCHIE
cATTACHING VERTICAL OMETcMARK CURVED.dKRYZHcLOWER TONAL RANGE INDICATORbPRIZNAK MODIFIER LEVEL-2
dLEVEL-3dDIRECTION FLIPdKRYZHdROG
1CF50bNEUME KRYUKdTIKHYcPARAKLITcDVA V CHELNUcKLYUCHcZANOZHEKcSTOPITSAdS OCHKOMcPEREVODKA
dNEPOSTOYANNAYAcSTOPITSA WITH SOROCHYA NOZHKAcCHELYUSTKAcPALKAcZAPYATAYAcGOLUBCHIK BORZYdTIKHY
dMRACHNYdSVETLYdTRESVETLYcVRAKHIYA PROSTAYAdMRACHNAYAdSVETLAYAdTRESVETLAYAdKLYUCHEVAYA PROSTAYA
eMRACHNAYAeSVETLAYAeTRESVETLAYAcDOUBLE ZAPYATAYAcREVERSED CHELYUSTKAcDERBITSAcKHAMILOcCHASHKA
cPODCHASHIEcSKAMEYTSA MRACHNAYAdSVETLAYAdTRESVETLAYAdTIKHAYAcDEMESTVENNY KLYUCH
cSKAMEYTSA KLYUCHEVAYA SVETLAYAdKLYUCHENEPOSTOYANNAYAdKLYUCHEVAYA TIKHAYAdDVOECHELNAYA PROSTAYA
eSVETLAYAeNEPOSTOYANNAYAeKLYUCHEVAYAcSLOZHITIEdS ZAPYATOYdZAKRYTOEdS KRYZHEMcKRYZHcROGcFITAcKOBYLA
cZMEYTSAcSTATYAdS ZAPYATOYeKRYZHEMeZAPYATOY I.eKRYZHEM I ZAPYATOYdZAKRYTAYAeS ZAPYATOYdS ROGOM
eDVUMYA ZAPYATYMIeZAPYATOY I PODCHASHIEMcPOLKULIZMYcSTATYA NEPOSTOYANNAYAcSTRELA PROSTAYA
dMRACHNOTIKHAYAdKRYZHEVAYAdPOLUPOVODNAYAdPOVODNAYAdNEPOSTOYANNAYAdKLYUCHEPOVODNAYA
dKLYUCHENEPOSTOYANNAYAdTIKHAYA PUTNAYAdDVOECHELNAYAdDVOECHELNOKRYZHEVAYAdDVOECHELNOPOVODNAYA
dDVOECHELNAYA KLYUCHEVAYAdDVOECHELNOPOVODNAYA.dGROMNAYA WITH SINGLE ZAPYATAYAdGROMOPOVODNAYA...
dGROMNAYAdGROMOPOVODNAYAeWITH DOUBLE ZAPYATAYAdGROMOKRYZHEVAYAePOVODNAYAcMECHIKdPOVODNYdKLYUCHEVOY
dKLYUCHEPOVODNYdKLYUCHENEPOSTOYANNYcSTRELA TRYASOGLASNAYAdTRYASOPOVODNAYAdTRYASOSTRELNAYAcOSOKA
dSVETLAYAdTRESVETLAYAdKRYUKOVAYA SVETLAYAdKLYUCHEVAYA.eNEPOSTOYANNAYAcSTRELA KRYUKOVAYAePOVODNAYA
eGROMNAYA WITH SINGLE ZAPYATAYAeGROMOPOVODNAYA...eGROMNAYAeGROMOPOVODNAYAfWITH DOUBLE ZAPYATAYA
eGROMOKRYZHEVAYAfPOVODNAYAeTRYASKAcKUFISMAcOBLAKOcDUDAcNEMKAcPAUK"

/-- Names of notations, pictographs and tags. -/
def pictureNames : String := "
1D000aBYZANTINE MUSICAL SYMBOL PSILIdDASEIAdPERISPOMENIdOXEIA EKFONITIKONeDIPLIdVAREIA EKFONITIKON
eDIPLIdKATHISTIdSYRMATIKIdPARAKLITIKIdYPOKRISISeDIPLIdKREMASTIdAPESO EKFONITIKONdEXO.dTELEIA
dKENTIMATAdAPOSTROFOSeDIPLIdSYNEVMAdTHITAdOLIGON ARCHAIONdGORGON.dPSILONdCHAMILONdVATHY
dISON ARCHAIONdKENTIMA.dKENTIMATA.dSAXIMATAdPARICHONdSTAVROS APODEXIAdOXEIAI ARCHAIONdVAREIAI.
dAPODERMA.dAPOTHEMAdKLASMAdREVMAdPIASMA ARCHAIONdTINAGMAdANATRICHISMAdSEISMAdSYNAGMA ARCHAION
eMETA STAVROUdOYRANISMA ARCHAIONdTHEMAdLEMOIdDYOdTRIAdTESSERAdKRATIMATAdAPESO EXO NEO
dFTHORA ARCHAIONdIMIFTHORAdTROMIKON ARCHAIONdKATAVA TROMIKONdPELASTONdPSIFISTONdKONTEVMA
dCHOREVMA ARCHAIONdRAPISMAdPARAKALESMA ARCHAIONdPARAKLITIKI.dICHADINdNANAdPETASMAdKONTEVMA ALLO
dTROMIKON.dSTRAGGISMATAdGRONTHISMATAdISON NEOdOLIGON.dOXEIA.dPETASTIdKOUFISMAdPETASTOKOUFISMA
dKRATIMOKOUFISMAdPELASTON NEOdKENTIMATA NEO ANOdKENTIMA..dYPSILIdAPOSTROFOS NEO
dAPOSTROFOI SYNDESMOS.dYPORROIdKRATIMOYPORROONdELAFRONdCHAMILIdMIKRON ISONdVAREIA NEOdPIASMA.
dPSIFISTON.dOMALONdANTIKENOMAdLYGISMAdPARAKLITIKI NEOdPARAKALESMA.dETERON PARAKALESMAdKYLISMA
dANTIKENOKYLISMAdTROMIKON NEOdEKSTREPTONdSYNAGMA NEOdSYRMAdCHOREVMA NEOdEPEGERMAdSEISMA NEO
dXIRON KLASMAdTROMIKOPSIFISTONdPSIFISTOLYGISMAdTROMIKOLYGISMAdTROMIKOPARAKALESMA
dPSIFISTOPARAKALESMAdTROMIKOSYNAGMAdPSIFISTOSYNAGMAdGORGOSYNTHETONdARGOSYNTHETONdETERON.
dOYRANISMA NEOdTHEMATISMOS ESOeEXOdTHEMA APLOUNdTHES KAI APOTHESdKATAVASMAdENDOFONONdYFEN KATOeANO
dSTAVROSdKLASMA ANOdDIPLI ARCHAIONdKRATIMA.eALLOeNEOdAPODERMA.dAPLIdDIPLIdTRIPLIdTETRAPLIdKORONIS
dLEIMMA ENOS CHRONOUeDYO CHRONONeTRION.eTESSARON.eIMISEOS CHRONOUdGORGON NEO ANO
ePARESTIGMENON ARISTERAfDEXIAdDIGORGONePARESTIGMENON ARISTERA KATOgANOfDEXIAdTRIGORGONdARGON
dIMIDIARGONdDIARGONdAGOGI POLI ARGIeARGOTERIeARGIeMETRIAeMESIeGORGIeGORGOTERIePOLI GORGI
dMARTYRIA PROTOS ICHOSeALLI..eDEYTEROS.eALLI..eTRITOS.eTRIFONIASeTETARTOS ICHOSfLEGETOS.e..
ePLAGIOS.dISAKIA TELOUS ICHIMATOSdAPOSTROFOI..dFANEROSIS TETRAFONIASeMONOFONIASeDIFONIAS
dMARTYRIA VARYS ICHOSePROTOVARYS.ePLAGIOS TETARTOS.dGORTHMIKON N APLOUNfDIPLOUN
dENARXIS KAI FTHORA VOUdIMIFONONdIMIFTHORONdFTHORA ARCHAION DEYTEROU ICHOUeDIATONIKI PAfNANA
eNAOS ICHOSeDIATONIKI DIeSKLIRON DIATONON.eDIATONIKI KEfZOfNI KATOgANOeMALAKON CHROMA DIFONIAS
gMONOFONIASdFHTORA SKLIRON CHROMA VASISdFTHORA SKLIRON CHROMA SYNAFIeNENANOdCHROA ZYGOSeKLITON
eSPATHIdFTHORA I YFESIS TETARTIMORIONeENARMONIOS ANTIFONIAdYFESIS TRITIMORIONdDIESIS.
eTETARTIMORIONeAPLI DYO DODEKATAeMONOGRAMMOS TESSERA.eDIGRAMMOS EX.eTRIGRAMMOS OKTO.
dYFESIS APLI DYO.eMONOGRAMMOS TESSERA.eDIGRAMMOS EX.eTRIGRAMMOS OKTO.dGENIKI DIESISeYFESIS
dDIASTOLI APLI MIKRIfMEGALIeDIPLIeTHESEOSdSIMANSIS.fDISIMOUfTRISIMOUfTETRASIMOUeARSEOSfDISIMOU
fTRISIMOUfTETRASIMOUdDIGRAMMA GGdDIFTOGGOS OUdSTIGMAdARKTIKO PAeVOUeGAeDIeKEeZOeNI
dKENTIMATA NEO MESOdKENTIMA..dKENTIMATA NEO KATOdKENTIMA..dKLASMA.dGORGON NEO.
1D100aMUSICAL SYMBOL SINGLE BARLINEcDOUBLE.cFINAL.cREVERSE..cDASHED.cSHORT.cLEFT REPEAT SIGN
cRIGHT..cREPEAT DOTScDAL SEGNOcDA CAPOcSEGNOcCODAcREPEATED FIGURE-1dFIGURE-2dFIGURE-3cFERMATA
dBELOWcBREATH MARKcCAESURAcBRACEcBRACKETcONE-LINE STAFFcTWO-LINE.cTHREE-LINE.cFOUR-LINE.
cFIVE-LINE.cSIX-LINE.cSIX-STRING FRETBOARDcFOUR-STRING.cG CLEFeOTTAVA ALTAfBASSAcC CLEFcF.
eOTTAVA ALTAfBASSAcDRUM CLEF-1dCLEF-2
1D129cMULTIPLE MEASURE RESTcDOUBLE SHARPdFLATcFLAT UPdDOWNcNATURAL UPdDOWNcSHARP UPdDOWN
cQUARTER TONE SHARPeFLATcCOMMON TIMEcCUT.cOTTAVA ALTAdBASSAcQUINDICESIMA ALTAdBASSAcMULTI REST
cWHOLE.cHALF.cQUARTER.cEIGHTH.cSIXTEENTH.cTHIRTY-SECOND.cSIXTY-FOURTH.cONE HUNDRED TWENTY-EIGHTH.
cX NOTEHEADcPLUS.cCIRCLE X.cSQUARE NOTEHEAD WHITEeBLACKcTRIANGLE NOTEHEAD UP WHITEfBLACK
eLEFT WHITEfBLACKeRIGHT WHITEfBLACKeDOWN WHITEfBLACKeUP RIGHT WHITEgBLACKcMOON NOTEHEAD WHITE
eBLACKcTRIANGLE-ROUND NOTEHEAD DOWN WHITEfBLACKcPARENTHESIS NOTEHEADcVOID.cNOTEHEAD BLACK
cNULL NOTEHEADcCLUSTER NOTEHEAD WHITEeBLACKcBREVEcWHOLE NOTEcHALF.cQUARTER.cEIGHTH.cSIXTEENTH.
cTHIRTY-SECOND.cSIXTY-FOURTH.cONE HUNDRED TWENTY-EIGHTH.cCOMBINING STEMdSPRECHGESANG.dTREMOLO-1
dTREMOLO-2dTREMOLO-3cFINGERED TREMOLO-1dTREMOLO-2dTREMOLO-3cCOMBINING AUGMENTATION DOTdFLAG-1
dFLAG-2dFLAG-3dFLAG-4dFLAG-5cBEGIN BEAMcEND.cBEGIN TIEcEND.cBEGIN SLURcEND.cBEGIN PHRASEcEND.
cCOMBINING ACCENTdSTACCATOdTENUTOdSTACCATISSIMOdMARCATOdMARCATO-STACCATOdACCENT-STACCATOdLOURE
cARPEGGIATO UPdDOWNcCOMBINING DOITdRIPdFLIPdSMEARdBENDdDOUBLE TONGUEdTRIPLE.cRINFORZANDOcSUBITOcZ
cPIANOcMEZZOcFORTEcCRESCENDOcDECRESCENDOcGRACE NOTE SLASHeNO.cTRcTURNcINVERTED.cTURN SLASHdUP
cORNAMENT STROKE-1dSTROKE-2dSTROKE-3dSTROKE-4dSTROKE-5dSTROKE-6dSTROKE-7dSTROKE-8dSTROKE-9
dSTROKE-10dSTROKE-11cHAUPTSTIMMEcNEBENSTIMMEcEND OF STIMMEcDEGREE SLASHcCOMBINING DOWN BOWdUP.
dHARMONICdSNAP PIZZICATOcPEDAL MARKdUP.cHALF PEDAL.cGLISSANDO UPdDOWNcWITH FINGERNAILScDAMPdALL
cMAXIMAcLONGAcBREVIScSEMIBREVIS WHITEdBLACKcMINIMAdBLACKcSEMIMINIMA WHITEdBLACKcFUSA WHITEdBLACK
cLONGA PERFECTA RESTdIMPERFECTA.cBREVIS.cSEMIBREVIS.cMINIMA.cSEMIMINIMA.
cTEMPUS PERFECTUM CUM PROLATIONE PERFECTAgIMPERFECTAgPERFECTA DIMINUTION-1
dIMPERFECTUM CUM PROLATIONE PERFECTAgIMPERFECTAhDIMINUTION-1hDIMINUTION-2hDIMINUTION-3cCROIX
cGREGORIAN C CLEFdF.cSQUARE BcVIRGAcPODATUScCLIVIScSCANDICUScCLIMACUScTORCULUScPORRECTUSdFLEXUS
cSCANDICUS.cTORCULUS RESUPINUScPES SUBPUNCTIScKIEVAN C CLEFdEND OF PIECEdFINAL NOTE
dRECITATIVE MARKdWHOLE NOTEdHALF.dQUARTER NOTE STEM DOWNgUPdEIGHTH NOTE STEM DOWNgUPdFLAT SIGN
cSORIcKORON
1D200aGREEK VOCAL NOTATION SYMBOL-1dSYMBOL-2dSYMBOL-3dSYMBOL-4dSYMBOL-5dSYMBOL-6dSYMBOL-7dSYMBOL-8
dSYMBOL-9dSYMBOL-10dSYMBOL-11dSYMBOL-12dSYMBOL-13dSYMBOL-14dSYMBOL-15dSYMBOL-16dSYMBOL-17
dSYMBOL-18dSYMBOL-19dSYMBOL-20dSYMBOL-21dSYMBOL-22dSYMBOL-23dSYMBOL-24dSYMBOL-50dSYMBOL-51
dSYMBOL-52dSYMBOL-53dSYMBOL-54bINSTRUMENTAL NOTATION SYMBOL-1dSYMBOL-2dSYMBOL-4dSYMBOL-5dSYMBOL-7
dSYMBOL-8dSYMBOL-11dSYMBOL-12dSYMBOL-13dSYMBOL-14dSYMBOL-17dSYMBOL-18dSYMBOL-19dSYMBOL-23
dSYMBOL-24dSYMBOL-25dSYMBOL-26dSYMBOL-27dSYMBOL-29dSYMBOL-30dSYMBOL-32dSYMBOL-36dSYMBOL-37
dSYMBOL-38dSYMBOL-39dSYMBOL-40dSYMBOL-42dSYMBOL-43dSYMBOL-45dSYMBOL-47dSYMBOL-48dSYMBOL-49
dSYMBOL-50dSYMBOL-51dSYMBOL-52dSYMBOL-53dSYMBOL-54aCOMBINING GREEK MUSICAL TRISEMEdTETRASEME
dPENTASEMEaGREEK MUSICAL LEIMMA
1D2E0aMAYAN NUMERAL ZEROcONEcTWOcTHREEcFOURcFIVEcSIXcSEVENcEIGHTcNINEcTENcELEVENcTWELVEcTHIRTEEN
cFOURTEENcFIFTEENcSIXTEENcSEVENTEENcEIGHTEENcNINETEEN
1D300aMONOGRAM FOR EARTHaDIGRAM FOR HEAVENLY.cHUMAN.cEARTHLY HEAVENdHUMANcEARTH
aTETRAGRAM FOR CENTREcFULL CIRCLEcMIREDcBARRIERcKEEPING SMALLcCONTRARIETYcASCENTcOPPOSITION
cBRANCHING OUTcDEFECTIVENESS OR DISTORTIONcDIVERGENCEcYOUTHFULNESScINCREASEcPENETRATIONcREACH
cCONTACTcHOLDING BACKcWAITINGcFOLLOWINGcADVANCEcRELEASEcRESISTANCEcEASEcJOYcCONTENTIONcENDEAVOUR
cDUTIEScCHANGEcDECISIVENESScBOLD RESOLUTIONcPACKINGcLEGIONcCLOSENESScKINSHIPcGATHERINGcSTRENGTH
cPURITYcFULLNESScRESIDENCEcLAW OR MODELcRESPONSEcGOING TO MEETcENCOUNTERScSTOVEcGREATNESS
cENLARGEMENTcPATTERNcRITUALcFLIGHTcVASTNESS OR WASTINGcCONSTANCYcMEASUREcETERNITYcUNITY
cDIMINISHMENTcCLOSED MOUTHcGUARDEDNESScGATHERING INcMASSINGcACCUMULATIONcEMBELLISHMENTcDOUBTcWATCH
cSINKINGcINNERcDEPARTUREcDARKENINGcDIMMINGcEXHAUSTIONcSEVERANCEcSTOPPAGEcHARDNESScCOMPLETION
cCLOSUREcFAILUREcAGGRAVATIONcCOMPLIANCEcON THE VERGEcDIFFICULTIEScLABOURINGcFOSTERING
1D360aCOUNTING ROD UNIT DIGIT ONEeTWOeTHREEeFOUReFIVEeSIXeSEVENeEIGHTeNINEcTENS DIGIT ONEeTWO
eTHREEeFOUReFIVEeSIXeSEVENeEIGHTeNINEaIDEOGRAPHIC TALLY MARK ONEdTWOdTHREEdFOURdFIVE
aTALLY MARK ONEcFIVE
1D400aMATHEMATICAL BOLD CAPITAL AdBdCdDdEdFdGdHdIdJdKdLdMdNdOdPdQdRdSdTdUdVdWdXdYdZcSMALL AdBdCdD
dEdFdGdHdIdJdKdLdMdNdOdPdQdRdSdTdUdVdWdXdYdZbITALIC CAPITAL AdBdCdDdEdFdGdHdIdJdKdLdMdNdOdPdQdRdS
dTdUdVdWdXdYdZcSMALL AdBdCdDdEdFdG
1D456dIdJdKdLdMdNdOdPdQdRdSdTdUdVdWdXdYdZbBOLD ITALIC CAPITAL AeBeCeDeEeFeGeHeIeJeKeLeMeNeOePeQeR
eSeTeUeVeWeXeYeZdSMALL AeBeCeDeEeFeGeHeIeJeKeLeMeNeOePeQeReSeTeUeVeWeXeYeZbSCRIPT CAPITAL A
1D49EdCdD
1D4A2dG
1D4A5dJdK
1D4A9dNdOdPdQ
1D4AEdSdTdUdVdWdXdYdZcSMALL AdBdCdD
1D4BBdF
1D4BDdHdIdJdKdLdMdN
1D4C5dPdQdRdSdTdUdVdWdXdYdZbBOLD SCRIPT CAPITAL AeBeCeDeEeFeGeHeIeJeKeLeMeNeOePeQeReSeTeUeVeWeXeY
eZdSMALL AeBeCeDeEeFeGeHeIeJeKeLeMeNeOePeQeReSeTeUeVeWeXeYeZbFRAKTUR CAPITAL AdB
1D507dDdEdFdG
1D50DdJdKdLdMdNdOdPdQ
1D516dSdTdUdVdWdXdY
1D51EcSMALL AdBdCdDdEdFdGdHdIdJdKdLdMdNdOdPdQdRdSdTdUdVdWdXdYdZbDOUBLE-STRUCK CAPITAL AdB
1D53BdDdEdFdG
1D540dIdJdKdLdM
1D546dO
1D54AdSdTdUdVdWdXdY
1D552cSMALL AdBdCdDdEdFdGdHdIdJdKdLdMdNdOdPdQdRdSdTdUdVdWdXdYdZbBOLD FRAKTUR CAPITAL AeBeCeDeEeFeG
eHeIeJeKeLeMeNeOePeQeReSeTeUeVeWeXeYeZdSMALL AeBeCeDeEeFeGeHeIeJeKeLeMeNeOePeQeReSeTeUeVeWeXeYeZ
bSANS-SERIF CAPITAL AdBdCdDdEdFdGdHdIdJdKdLdMdNdOdPdQdRdSdTdUdVdWdXdYdZcSMALL AdBdCdDdEdFdGdHdIdJ
dKdLdMdNdOdPdQdRdSdTdUdVdWdXdYdZcBOLD CAPITAL AeBeCeDeEeFeGeHeIeJeKeLeMeNeOePeQeReSeTeUeVeWeXeYeZ
dSMALL AeBeCeDeEeFeGeHeIeJeKeLeMeNeOePeQeReSeTeUeVeWeXeYeZcITALIC CAPITAL AeBeCeDeEeFeGeHeIeJeKeL
eMeNeOePeQeReSeTeUeVeWeXeYeZdSMALL AeBeCeDeEeFeGeHeIeJeKeLeMeNeOePeQeReSeTeUeVeWeXeYeZ
cBOLD ITALIC CAPITAL AfBfCfDfEfFfGfHfIfJfKfLfMfNfOfPfQfRfSfTfUfVfWfXfYfZeSMALL AfBfCfDfEfFfGfHfIfJ
fKfLfMfNfOfPfQfRfSfTfUfVfWfXfYfZbMONOSPACE CAPITAL AdBdCdDdEdFdGdHdIdJdKdLdMdNdOdPdQdRdSdTdUdVdWdX
dYdZcSMALL AdBdCdDdEdFdGdHdIdJdKdLdMdNdOdPdQdRdSdTdUdVdWdXdYdZbITALIC SMALL DOTLESS IeJ
1D6A8bBOLD CAPITAL ALPHAdBETAdGAMMAdDELTAdEPSILONdZETAdETAdTHETAdIOTAdKAPPAdLAMDAdMUdNUdXIdOMICRON
dPIdRHOdTHETA SYMBOLdSIGMAdTAUdUPSILONdPHIdCHIdPSIdOMEGAcNABLAcSMALL ALPHAdBETAdGAMMAdDELTA
dEPSILONdZETAdETAdTHETAdIOTAdKAPPAdLAMDAdMUdNUdXIdOMICRONdPIdRHOdFINAL SIGMAd.dTAUdUPSILONdPHIdCHI
dPSIdOMEGAcPARTIAL DIFFERENTIALcEPSILON SYMBOLcTHETA.cKAPPA.cPHI.cRHO.cPI.bITALIC CAPITAL ALPHA
dBETAdGAMMAdDELTAdEPSILONdZETAdETAdTHETAdIOTAdKAPPAdLAMDAdMUdNUdXIdOMICRONdPIdRHOdTHETA SYMBOL
dSIGMAdTAUdUPSILONdPHIdCHIdPSIdOMEGAcNABLAcSMALL ALPHAdBETAdGAMMAdDELTAdEPSILONdZETAdETAdTHETA
dIOTAdKAPPAdLAMDAdMUdNUdXIdOMICRONdPIdRHOdFINAL SIGMAd.dTAUdUPSILONdPHIdCHIdPSIdOMEGA
cPARTIAL DIFFERENTIALcEPSILON SYMBOLcTHETA.cKAPPA.cPHI.cRHO.cPI.bBOLD ITALIC CAPITAL ALPHAeBETA
eGAMMAeDELTAeEPSILONeZETAeETAeTHETAeIOTAeKAPPAeLAMDAeMUeNUeXIeOMICRONePIeRHOeTHETA SYMBOLeSIGMA
eTAUeUPSILONePHIeCHIePSIeOMEGAdNABLAdSMALL ALPHAeBETAeGAMMAeDELTAeEPSILONeZETAeETAeTHETAeIOTA
eKAPPAeLAMDAeMUeNUeXIeOMICRONePIeRHOeFINAL SIGMAe.eTAUeUPSILONePHIeCHIePSIeOMEGA
dPARTIAL DIFFERENTIALdEPSILON SYMBOLdTHETA.dKAPPA.dPHI.dRHO.dPI.bSANS-SERIF BOLD CAPITAL ALPHA
eBETAeGAMMAeDELTAeEPSILONeZETAeETAeTHETAeIOTAeKAPPAeLAMDAeMUeNUeXIeOMICRONePIeRHOeTHETA SYMBOL
eSIGMAeTAUeUPSILONePHIeCHIePSIeOMEGAdNABLAdSMALL ALPHAeBETAeGAMMAeDELTAeEPSILONeZETAeETAeTHETA
eIOTAeKAPPAeLAMDAeMUeNUeXIeOMICRONePIeRHOeFINAL SIGMAe.eTAUeUPSILONePHIeCHIePSIeOMEGA
dPARTIAL DIFFERENTIALdEPSILON SYMBOLdTHETA.dKAPPA.dPHI.dRHO.dPI.dITALIC CAPITAL ALPHAfBETAfGAMMA
fDELTAfEPSILONfZETAfETAfTHETAfIOTAfKAPPAfLAMDAfMUfNUfXIfOMICRONfPIfRHOfTHETA SYMBOLfSIGMAfTAU
fUPSILONfPHIfCHIfPSIfOMEGAeNABLAeSMALL ALPHAfBETAfGAMMAfDELTAfEPSILONfZETAfETAfTHETAfIOTAfKAPPA
fLAMDAfMUfNUfXIfOMICRONfPIfRHOfFINAL SIGMAf.fTAUfUPSILONfPHIfCHIfPSIfOMEGAePARTIAL DIFFERENTIAL
eEPSILON SYMBOLeTHETA.eKAPPA.ePHI.eRHO.ePI.bBOLD CAPITAL DIGAMMAcSMALL.
1D7CEcDIGIT ZEROdONEdTWOdTHREEdFOURdFIVEdSIXdSEVENdEIGHTdNINEbDOUBLE-STRUCK DIGIT ZEROdONEdTWO
dTHREEdFOURdFIVEdSIXdSEVENdEIGHTdNINEbSANS-SERIF DIGIT ZEROdONEdTWOdTHREEdFOURdFIVEdSIXdSEVEN
dEIGHTdNINEcBOLD DIGIT ZEROeONEeTWOeTHREEeFOUReFIVEeSIXeSEVENeEIGHTeNINEbMONOSPACE DIGIT ZEROdONE
dTWOdTHREEdFOURdFIVEdSIXdSEVENdEIGHTdNINEaSIGNWRITING HAND-FIST INDEXbHAND-CIRCLE.bHAND-CUP.
bHAND-OVAL.bHAND-HINGE.bHAND-ANGLE.bHAND-FIST INDEX BENTbHAND-CIRCLE..bHAND-FIST THUMB UNDER..
cINDEX RAISED KNUCKLEdCUPPEDdHINGEDeLOWbHAND-CIRCLE INDEX HINGEbHAND-FIST INDEX MIDDLE
bHAND-CIRCLE..bHAND-FIST INDEX MIDDLE BENTeRAISED KNUCKLESeHINGEDdUP..dHINGED MIDDLE UP
dMIDDLE CONJOINEDfINDEX BENTfMIDDLE.fCUPPEDfHINGEDeCROSSEDbHAND-CIRCLE...
bHAND-FIST MIDDLE BENT OVER INDEXcINDEX BENT OVER MIDDLEdMIDDLE THUMBbHAND-CIRCLE...
bHAND-FIST INDEX MIDDLE STRAIGHT THUMB BENTeBENT THUMB STRAIGHTeTHUMB BENT
eHINGED SPREAD THUMB SIDEdUP MIDDLE HINGED..hCONJOINEDdHINGED MIDDLE UP THUMB SIDE
dMIDDLE UP SPREAD THUMB FORWARDeTHUMB CUPPEDfCIRCLEDfHOOKEDfHINGED
cTHUMB BETWEEN INDEX MIDDLE STRAIGHTcINDEX MIDDLE CONJOINED THUMB SIDEhCONJOINEDhBENT
cMIDDLE THUMB HOOKED INDEX UPcINDEX THUMB HOOKED MIDDLE.dMIDDLE CONJOINED HINGED THUMB SIDE
eCROSSED..eCONJOINED THUMB FORWARDfCUPPED..cMIDDLE THUMB CUPPED INDEX UP
cINDEX THUMB CUPPED MIDDLE.cMIDDLE THUMB CIRCLED INDEX.gHINGEDcINDEX THUMB ANGLED OUT MIDDLE UP
fIN..eCIRCLED..dMIDDLE THUMB CONJOINED HINGEDfANGLED OUTgcMIDDLE THUMB ANGLED OUT INDEX UPhCROSSED
fINDEX UPcINDEX THUMB HOOKED MIDDLE HINGEDbHAND-FLAT FOUR FINGERSeBENTeHINGEDeCONJOINEDfSPLIT
bHAND-CLAW FOUR FINGERS CONJOINEDbHAND-FIST FOUR FINGERS CONJOINED BENT
bHAND-HINGE FOUR FINGERS CONJOINEDbHAND-FLAT FIVE FINGERS SPREADcHEEL...
cFIVE FINGERS SPREAD FOUR BENTcHEEL.....cFIVE FINGERS SPREAD.cHEEL....
cFIVE FINGERS SPREAD THUMB FORWARDbHAND-CUP FIVE FINGERS SPREADfOPENbHAND-HINGE....
bHAND-OVAL FIVE FINGERS SPREADbHAND-FLAT FIVE FINGERS SPREAD HINGEDgTHUMB SIDEgNO THUMBc
cBETWEEN PALM FACINGScHEELcTHUMB SIDEcHEEL..cTHUMB BENTdFORWARDcSPLIT INDEX THUMB SIDEdCENTRE
eTHUMB SIDEgBENTdLITTLEbHAND-CLAWcTHUMB SIDEcNO THUMBcTHUMB FORWARDbHAND-HOOK CURLICUEc
bHAND-CUP OPENccOPEN THUMB SIDEc..cOPEN NO THUMBc..cOPEN THUMB FORWARDc..bHAND-CURLICUE OPENc
bHAND-CIRCLEbHAND-OVALcTHUMB SIDEcNO THUMBcTHUMB FORWARDbHAND-HINGE OPENdTHUMB FORWARDccSMALL
cOPEN THUMB SIDEc..cOPEN NO THUMBc..cTHUMB SIDE TOUCHING INDEXdBETWEEN MIDDLE RINGbHAND-ANGLE
bHAND-FIST INDEX MIDDLE RINGbHAND-CIRCLE...bHAND-HINGE...bHAND-ANGLE...bHAND-HINGE LITTLE
bHAND-FIST INDEX MIDDLE RING BENTfCONJOINEDbHAND-HINGE....bHAND-FIST LITTLE DOWNeRIPPLE STRAIGHT
fCURVEDeOTHERS CIRCLEDdUPcTHUMB UNDER..bHAND-CIRCLE..bHAND-OVAL..bHAND-ANGLE..
bHAND-FIST LITTLE RAISED KNUCKLEdBENTdTOUCHES THUMBd.bHAND-HINGE..bHAND-FIST LITTLE INDEX.
bHAND-HINGE...bHAND-ANGLE LITTLE INDEX THUMB INDEX THUMB OUThbHAND-FIST LITTLE INDEXbHAND-CIRCLE..
bHAND-HINGE..bHAND-ANGLE..bHAND-FIST INDEX MIDDLE LITTLEbHAND-CIRCLE...bHAND-HINGE...cRING
bHAND-ANGLE INDEX MIDDLE LITTLEbHAND-FIST INDEX MIDDLE CROSS.bHAND-CIRCLE....bHAND-FIST RING DOWN
bHAND-HINGE RING DOWN INDEX THUMB HOOK MIDDLEbHAND-ANGLE RING DOWN MIDDLE THUMB INDEX CROSS
bHAND-FIST RING UPdRAISED KNUCKLEdLITTLEbHAND-CIRCLE..bHAND-OVAL..bHAND-ANGLE..
bHAND-FIST RING MIDDLEeCONJOINEDeRAISED KNUCKLESdINDEXdTHUMBbHAND-HOOK..
bHAND-FIST INDEX RING LITTLEbHAND-CIRCLE...bHAND-CURLICUE INDEX RING LITTLE ON
bHAND-HOOK INDEX RING LITTLE OUTfINfUNDERbHAND-CUP INDEX RING LITTLEbHAND-HINGE...
bHAND-ANGLE INDEX RING LITTLE OUTfbHAND-FIST MIDDLE DOWNbHAND-HINGE MIDDLEbHAND-FIST MIDDLE UP
bHAND-CIRCLE..bHAND-FIST MIDDLE RAISED KNUCKLEdUP THUMB SIDEbHAND-HOOK MIDDLE THUMB
bHAND-FIST MIDDLE THUMB LITTLEd.dRING.bHAND-CIRCLE...bHAND-CURLICUE MIDDLE RING LITTLE ON
bHAND-CUP MIDDLE RING LITTLEbHAND-HINGE...bHAND-ANGLE MIDDLE RING LITTLE OUTfINf
bHAND-CIRCLE MIDDLE RING LITTLE BENTbHAND-CLAW MIDDLE RING LITTLE CONJOINEDgSIDE
bHAND-HOOK MIDDLE RING LITTLE CONJOINED OUTgINgbHAND-HINGE INDEX HINGEDbHAND-FIST INDEX THUMB SIDE
bHAND-HINGE...bHAND-FIST INDEX THUMB SIDE THUMB DIAGONALgCONJOINEDgBENTfINDEX.fBOTH.fINDEX HINGE
eFORWARD INDEX STRAIGHTgBENTeHOOKeCURLICUEeCURVE THUMB INSIDEbHAND-CLAW.....
bHAND-FIST INDEX THUMB CURVE THUMB UNDEReCIRCLEbHAND-CUP INDEX THUMBeOPENbHAND-HINGE...eLARGEe
eSMALLbHAND-ANGLE INDEX THUMB OUTeINebHAND-FIST.dHEELdSIDE DIAGONALeCONJOINEDeBENTdFORWARD
dBETWEEN INDEX MIDDLEeMIDDLE RINGeRING LITTLEdUNDER TWO FINGERSdOVER..dUNDER THREE.eFOUR.
dOVER FOUR RAISED KNUCKLESccHEELbTOUCH SINGLEcMULTIPLEcBETWEENbGRASP SINGLEcMULTIPLEcBETWEEN
bSTRIKE SINGLEcMULTIPLEcBETWEENbBRUSH SINGLEcMULTIPLEcBETWEENbRUB SINGLEcMULTIPLEcBETWEEN
bSURFACE SYMBOLScBETWEENbSQUEEZE LARGE SINGLEcSMALL.cLARGE MULTIPLEcSMALL.cSEQUENTIAL
bFLICK LARGE SINGLEcSMALL.cLARGE MULTIPLEcSMALL.cSEQUENTIALbSQUEEZE FLICK ALTERNATING
bMOVEMENT-HINGE UP DOWN LARGEeSMALLdSEQUENTIALcDOWN.cUP DOWN ALTERNATING LARGEfSMALL
cSIDE TO SIDE SCISSORSbMOVEMENT-WALLPLANE FINGER CONTACTbMOVEMENT-FLOORPLANE..
bMOVEMENT-WALLPLANE SINGLE STRAIGHT SMALLeMEDIUMeLARGEeLARGESTdWRIST FLEXcDOUBLE STRAIGHT
dWRIST FLEXdALTERNATINGeWRIST FLEXcCROSScTRIPLE STRAIGHT MOVEMENTdWRIST FLEXdALTERNATING
eWRIST FLEXcBEND SMALLdMEDIUMdLARGEcCORNER SMALLdMEDIUMdLARGEdROTATIONcCHECK SMALLdMEDIUMdLARGE
cBOX SMALLdMEDIUMdLARGEcZIGZAG SMALLdMEDIUMdLARGEcPEAKS SMALLdMEDIUMdLARGE
bTRAVEL-WALLPLANE ROTATION-WALLPLANE SINGLEdDOUBLEdALTERNATINGcROTATION-FLOORPLANE SINGLEdDOUBLE
dALTERNATINGcSHAKINGcARM SPIRAL SINGLEeDOUBLEeTRIPLEbMOVEMENT-DIAGONAL AWAY SMALLdMEDIUMdLARGE
dLARGESTcTOWARDS SMALLdMEDIUMdLARGEdLARGESTcBETWEEN AWAY SMALLeMEDIUMeLARGEeLARGESTdTOWARDS SMALL
eMEDIUMeLARGEeLARGESTbMOVEMENT-FLOORPLANE SINGLE STRAIGHT SMALLeMEDIUMeLARGEeLARGESTdWRIST FLEX
cDOUBLE STRAIGHTdWRIST FLEXdALTERNATINGeWRIST FLEXcCROSScTRIPLE STRAIGHT MOVEMENTdWRIST FLEX
dALTERNATING MOVEMENTeWRIST FLEXcBENDcCORNER SMALLdMEDIUMdLARGEcCHECKcBOX SMALLdMEDIUMdLARGE
cZIGZAG SMALLdMEDIUMdLARGEcPEAKS SMALLdMEDIUMdLARGEbTRAVEL-FLOORPLANE ROTATION-FLOORPLANE SINGLE
dDOUBLEdALTERNATINGcROTATION-WALLPLANE SINGLEdDOUBLEdALTERNATINGcSHAKING
bMOVEMENT-WALLPLANE CURVE QUARTER SMALLeMEDIUMeLARGEeLARGESTdHALF-CIRCLE SMALLeMEDIUMeLARGE
eLARGESTdTHREE-QUARTER CIRCLE SMALLfMEDIUMcHUMP SMALLdMEDIUMdLARGEcLOOP SMALLdMEDIUMdLARGE
dSMALL DOUBLEcWAVE CURVE DOUBLE SMALLfMEDIUMfLARGEeTRIPLE SMALLfMEDIUMfLARGEcCURVE THEN STRAIGHT
cCURVED CROSS SMALLeMEDIUMbROTATION-WALLPLANE SINGLEcDOUBLEcALTERNATEbMOVEMENT-WALLPLANE SHAKING
cCURVE HITTING FRONT WALLcHUMP...cLOOP...cWAVE...bROTATION-WALLPLANE SINGLE...cDOUBLE...
cALTERNATING...bMOVEMENT-WALLPLANE CURVE HITTING CHESTcHUMP..cLOOP..cWAVE..
bROTATION-WALLPLANE SINGLE..cDOUBLE..cALTERNATING..bMOVEMENT-WALLPLANE WAVE DIAGONAL PATH SMALL
fMEDIUMfLARGEbMOVEMENT-FLOORPLANE CURVE HITTING CEILING SMALLfLARGE
cHUMP HITTING CEILING SMALL DOUBLEfLARGE.fSMALL TRIPLEfLARGE.cLOOP HITTING CEILING SMALL SINGLE
fLARGE.fSMALL DOUBLEfLARGE.cWAVE HITTING CEILING SMALLfLARGE
bROTATION-FLOORPLANE SINGLE HITTING CEILINGcDOUBLE..cALTERNATING..
bMOVEMENT-FLOORPLANE CURVE HITTING FLOOR SMALLfLARGEcHUMP HITTING FLOOR SMALL DOUBLEfLARGE.
fTRIPLE SMALL TRIPLEgLARGE.cLOOP HITTING FLOOR SMALL SINGLEfLARGE.fSMALL DOUBLEfLARGE.
cWAVE HITTING FLOOR SMALLfLARGEbROTATION-FLOORPLANE SINGLE HITTING FLOORcDOUBLE..cALTERNATING..
bMOVEMENT-FLOORPLANE CURVE SMALLdMEDIUMdLARGEdLARGESTdCOMBINEDcHUMP SMALLcLOOP.cWAVE SNAKEdSMALL
dLARGEbROTATION-FLOORPLANE SINGLEcDOUBLEcALTERNATINGbMOVEMENT-FLOORPLANE SHAKING PARALLEL
bMOVEMENT-WALLPLANE ARM CIRCLE SMALL SINGLEeMEDIUM.eSMALL DOUBLEeMEDIUM.
bMOVEMENT-FLOORPLANE ARM CIRCLE HITTING WALL SMALL SINGLEgMEDIUM.gLARGE.gSMALL DOUBLEgMEDIUM.
gLARGE.bMOVEMENT-WALLPLANE WRIST CIRCLE FRONT SINGLEfDOUBLE
bMOVEMENT-FLOORPLANE WRIST CIRCLE HITTING WALL SINGLEgDOUBLE
bMOVEMENT-WALLPLANE FINGER CIRCLES SINGLEeDOUBLE
bMOVEMENT-FLOORPLANE FINGER CIRCLES HITTING WALL SINGLEgDOUBLEbDYNAMIC ARROWHEAD SMALLdLARGEcFAST
cSLOWcTENSEcRELAXEDcSIMULTANEOUSdALTERNATINGcEVERY OTHER TIMEcGRADUALbHEADcRIM
cMOVEMENT-WALLPLANE STRAIGHTdTILTcMOVEMENT-FLOORPLANE STRAIGHTcMOVEMENT-WALLPLANE CURVE
cMOVEMENT-FLOORPLANE.cMOVEMENT CIRCLEbFACE DIRECTION POSITION NOSE FORWARD TILTINGfUP OR DOWN
iTILTINGbEYEBROWS STRAIGHT UPdNEUTRALdDOWNbDREAMY EYEBROWS NEUTRAL.dDOWN NEUTRALdUP.dNEUTRAL UP
bFOREHEAD NEUTRALcCONTACTcWRINKLEDbEYES OPENcSQUEEZEDcCLOSEDbEYE BLINK SINGLEdMULTIPLE
bEYES HALF OPENcWIDE.cHALF CLOSEDcWIDENING MOVEMENTbEYE WINKbEYELASHES UPcDOWNcFLUTTERING
bEYEGAZE-WALLPLANE STRAIGHTdDOUBLEdALTERNATINGbEYEGAZE-FLOORPLANE STRAIGHTdDOUBLEdALTERNATING
bEYEGAZE-WALLPLANE CURVEDbEYEGAZE-FLOORPLANE.bEYEGAZE-WALLPLANE CIRCLINGbCHEEKS PUFFEDcNEUTRAL
cSUCKEDbTENSE CHEEKS HIGHdMIDDLEdLOWbEARSbNOSE NEUTRALcCONTACTcWRINKLEScWIGGLESbAIR BLOWING OUT
cSUCKING INcBLOW SMALL ROTATIONScSUCK..bBREATH INHALEcEXHALEbMOUTH CLOSED NEUTRALdFORWARDdCONTACT
cSMILEdWRINKLEDdOPENcFROWNdWRINKLEDdOPENcOPEN CIRCLEdFORWARDdWRINKLEDdOVALeWRINKLEDeYAWNdRECTANGLE
eWRINKLEDeYAWNcKISSdFORWARDdWRINKLEDcTENSEdFORWARDdSUCKEDbLIPS PRESSED TOGETHER
bLIP LOWER OVER UPPERcUPPER OVER LOWERbMOUTH CORNERScWRINKLES SINGLEdDOUBLE
bTONGUE STICKING OUT FARcLICKING LIPScTIP BETWEEN.dTOUCHING INSIDE MOUTHcINSIDE MOUTH RELAXED
cMOVES AGAINST CHEEKcCENTRE STICKING OUTdINSIDE MOUTHbTEETHcMOVEMENTcON TONGUEeMOVEMENTdLIPS
eMOVEMENTcBITE LIPSbMOVEMENT-WALLPLANE JAWbMOVEMENT-FLOORPLANE.bNECKbHAIRbEXCITEMENT
bSHOULDER HIP SPINEdPOSITIONSbWALLPLANE SHOULDER HIP MOVEbFLOORPLANE...
bSHOULDER TILTING FROM WAISTbTORSO-WALLPLANE STRAIGHT STRETCHcCURVED BEND
bTORSO-FLOORPLANE TWISTINGbUPPER BODY TILTING FROM HIP JOINTSbLIMB COMBINATIONcLENGTH-1cLENGTH-2
cLENGTH-3cLENGTH-4cLENGTH-5cLENGTH-6cLENGTH-7bFINGERbLOCATION-WALLPLANE SPACEbLOCATION-FLOORPLANE.
bLOCATION HEIGHTcWIDTHcDEPTHcHEAD NECKcTORSOcLIMBS DIGITSbCOMMAbFULL STOPbSEMICOLONbCOLON
bPARENTHESIS
1DA9BbFILL MODIFIER-2cMODIFIER-3cMODIFIER-4cMODIFIER-5cMODIFIER-6
1DAA1bROTATION MODIFIER-2cMODIFIER-3cMODIFIER-4cMODIFIER-5cMODIFIER-6cMODIFIER-7cMODIFIER-8
cMODIFIER-9cMODIFIER-10cMODIFIER-11cMODIFIER-12cMODIFIER-13cMODIFIER-14cMODIFIER-15cMODIFIER-16
1DF00aLATIN SMALL LETTER FENG DIGRAPH WITH TRILLdREVERSED SCRIPT GbLETTER SMALL CAPITAL TURNED.
bSMALL LETTER REVERSED KbLETTER SMALL CAPITAL L WITH BELTbSMALL LETTER LEZH WITH RETROFLEX HOOK
dTURNED Y WITH BELTdREVERSED ENGdTURNED R WITH LONG LEG AND RETROFLEX HOOKdT WITH HOOK...
bLETTER RETROFLEX CLICK WITH..bSMALL LETTER ESH WITH DOUBLE BARhAND CURLdTURNED T WITH.
bLETTER INVERTED GLOTTAL STOP..cSTRETCHED C..cSMALL CAPITAL TURNED KbSMALL LETTER L WITH FISHHOOK
dDEZH DIGRAPH WITH PALATAL HOOKdL WITH BELT AND..dENG WITH..dTURNED R...dR WITH FISHHOOK AND..
dTESH DIGRAPH WITH..dEZH...dDEZH DIGRAPH WITH RETROFLEX.dI WITH STROKE AND..dO WITH..
dTESH DIGRAPH...dC...dS WITH CURL
1E000aCOMBINING GLAGOLITIC LETTER AZUdBUKYdVEDEdGLAGOLIdDOBROdYESTUdZHIVETE
1E008dZEMLJAdIZHEdINITIAL.dIdDJERVIdKAKOdLJUDIJEdMYSLITEdNASHIdONUdPOKOJIdRITSIdSLOVOdTVRIDOdUKU
dFRITUdHERU
1E01BdSHTAdTSIdCHRIVIdSHAdYERUdYERIdYATI
1E023dYUdSMALL YUS
1E026dYOdIOTATED SMALL YUSdBIG.dIOTATED..dFITA
1E100aNYIAKENG PUACHUE HMONG LETTER MAeTSAeNTAeTAeHAeNAeXAeNKAeCAeLAeSAeZAeNCAeNTSAeKAeDAeNYAeNRA
eVAeNTXAeTXAeFAeRAeQAeYAeNQAePAeXYAeNPAeDLAeNPLAeHAHeMLAePLAeGAeRRAeAeAAeIeUeOeOOeEeEEeW
1E130dTONE-BdTONE-MdTONE-JdTONE-VdTONE-SdTONE-GdTONE-DdSIGN FOR PERSONfTHINGfLOCATIONfANIMAL
fINVERTEBRATEeXW XWdSYLLABLE LENGTHENER
1E140dDIGIT ZEROeONEeTWOeTHREEeFOUReFIVEeSIXeSEVENeEIGHTeNINE
1E14EdLOGOGRAM NYAJdCIRCLED CA
1E290aTOTO LETTER PAcBAcTAcDAcKAcGAcMAcNAcNGAcSAcCHAcYAcWAcJAcHAcRAcLAcIcBREATHY.cIUcBREATHY.cUcE
cBREATHY.cEOcBREATHY.cOcAEcBREATHY.cAbSIGN RISING TONE
1E2C0aWANCHO LETTER AAcAcBAcCAcDAcGAcYAcPHAcLAcNAcPAcTAcTHAcFAcSAcSHAcJAcZAcWAcVAcKAcOcAUcRAcMA
cKHAcHAcEcIcNGAcUcLLHAcTSAcTRAcONGcAANGcANGcINGcONcENcAANcNYAcUENcYIHbTONE TUPcTUPNIcKOIcKOINI
bDIGIT ZEROcONEcTWOcTHREEcFOURcFIVEcSIXcSEVENcEIGHTcNINE
1E2FFbNGUN SIGN
1E7E0aETHIOPIC SYLLABLE HHYAcHHYUcHHYIcHHYAAcHHYEEcHHYEcHHYO
1E7E8cGURAGE HHWAcHHWIcHHWEEcHHWE
1E7EDcGURAGE MWIdMWEE
1E7F0dQWIdQWEEdQWEdBWIdBWEEdKWIdKWEEdKWEdGWIdGWEEdGWEdFWIdFWEEdPWIdPWEE
1E800aMENDE KIKAKUI SYLLABLE M001 KIdM002 KAdM003 KUdM065 KEEdM095 KEdM076 KOOdM048 KOdM179 KUA
dM004 WIdM005 WAdM006 WUdM126 WEEdM118 WEdM114 WOOdM045 WOdM194 WUIdM143 WEIdM061 WVIdM049 WVA
dM139 WVEdM007 MINdM008 MANdM009 MUNdM059 MENdM094 MONdM154 MUANdM189 MUENdM010 BIdM011 BAdM012 BU
dM150 BEEdM097 BEdM103 BOOdM138 BOdM013 IdM014 AdM015 UdM163 EEdM100 EdM165 OOdM147 OdM137 EI
dM131 INdM135.dM195 ANdM178 ENdM019 SIdM020 SAdM021 SUdM162 SEEdM116 SEdM136 SOOdM079 SOdM196 SIA
dM025 LIdM026 LAdM027 LUdM084 LEEdM073 LEdM054 LOOdM153 LOdM110 LONG LEdM016 DIdM017 DAdM018 DU
dM089 DEEdM180 DOOdM181 DOdM022 TIdM023 TAdM024 TUdM091 TEEdM055 TEdM104 TOOdM069 TOdM028 JI
dM029 JAdM030 JUdM157 JEEdM113 JEdM160 JOOdM063 JOdM175 LONG.dM031 YIdM032 YAdM033 YUdM109 YEE
dM080 YEdM141 YOOdM121 YOdM034 FIdM035 FAdM036 FUdM078 FEEdM075 FEdM133 FOOdM088 FOdM197 FUA
dM101 FANdM037 NINdM038 NANdM039 NUNdM117 NENdM169 NONdM176 HIdM041 HAdM186 HUdM040 HEEdM096 HE
dM042 HOOdM140 HOdM083 HEEIdM128 HOOUdM053 HINdM130 HANdM087 HUNdM052 HENdM193 HONdM046 HUAN
dM090 NGGIdM043 NGGAdM082 NGGUdM115 NGGEEdM146 NGGEdM156 NGGOOdM120 NGGOdM159 NGGAAdM127 NGGUA
dM086 LONG NGGEdM106 LONG NGGOOdM183 LONG NGGOdM155 GIdM111 GAdM168 GUdM190 GEEdM166 GUEI
dM167 GUANdM184 NGENdM057 NGONdM177 NGUANdM068 PIdM099 PAdM050 PUdM081 PEEdM051 PEdM102 POO
dM066 POdM145 MBIdM062 MBAdM122 MBUdM047 MBEEdM188.dM072 MBEdM172 MBOOdM174 MBOdM187 MBUU
dM161 LONG MBEdM105 LONG MBOOdM142 LONG MBOdM132 KPIdM092 KPAdM074 KPUdM044 KPEEdM108 KPE
dM112 KPOOdM158 KPOdM124 GBIdM056 GBAdM148 GBUdM093 GBEEdM107 GBEdM071 GBOOdM070 GBOdM171 RA
dM123 NDIdM129 NDAdM125 NDUdM191 NDEEdM119 NDEdM067 NDOOdM064 NDOdM152 NJAdM192 NJUdM149 NJEE
dM134 NJOOdM182 VIdM185 VAdM151 VUdM173 VEEdM085 VEdM144 VOOdM077 VOdM164 NYINdM058 NYANdM170 NYUN
dM098 NYENdM060 NYON
1E8C7cDIGIT ONEdTWOdTHREEdFOURdFIVEdSIXdSEVENdEIGHTdNINEcCOMBINING NUMBER TEENSeTENSeHUNDREDS
eTHOUSANDSeTEN.eHUNDRED.eMILLIONS
1E900aADLAM CAPITAL LETTER ALIFdDAALIdLAAMdMIIMdBAdSINNYIIYHEdPEdBHEdRAdEdFAdIdOdDHAdYHEdWAWdNUN
dKAFdYAdUdJIIMdCHIdHAdQAAFdGAdNYAdTUdNHAdVAdKHAdGBEdZALdKPOdSHAbSMALL LETTER ALIFdDAALIdLAAMdMIIM
dBAdSINNYIIYHEdPEdBHEdRAdEdFAdIdOdDHAdYHEdWAWdNUNdKAFdYAdUdJIIMdCHIdHAdQAAFdGAdNYAdTUdNHAdVAdKHA
dGBEdZALdKPOdSHAbALIF LENGTHENERbVOWEL.bGEMINATION MARKbHAMZAbCONSONANT MODIFIERbGEMINATE..bNUKTA
bNASALIZATION MARK
1E950bDIGIT ZEROcONEcTWOcTHREEcFOURcFIVEcSIXcSEVENcEIGHTcNINE
1E95EbINITIAL EXCLAMATION MARKcQUESTION.
1EC71aINDIC SIYAQ NUMBER ONEdTWOdTHREEdFOURdFIVEdSIXdSEVENdEIGHTdNINEdTENdTWENTYdTHIRTYdFORTY
dFIFTYdSIXTYdSEVENTYdEIGHTYdNINETYdONE HUNDREDdTWO.dTHREE.dFOUR.dFIVE.dSIX.dSEVEN.dEIGHT.dNINE.
dONE THOUSANDdTWO.dTHREE.dFOUR.dFIVE.dSIX.dSEVEN.dEIGHT.dNINE.dTEN.dTWENTY.dTHIRTY.dFORTY.dFIFTY.
dSIXTY.dSEVENTY.dEIGHTY.dNINETY.dLAKHdLAKHANcLAKH MARKcNUMBER KARORdKARORANdPREFIXED ONEeTWOeTHREE
eFOUReFIVEeSIXeSEVENeEIGHTeNINEcPLACEHOLDERcFRACTION ONE QUARTEReHALFdTHREE QUARTERScRUPEE MARK
cNUMBER ALTERNATE ONEeTWOeTEN THOUSANDcALTERNATE LAKH MARK
1ED01aOTTOMAN SIYAQ NUMBER ONEdTWOdTHREEdFOURdFIVEdSIXdSEVENdEIGHTdNINEdTENdTWENTYdTHIRTYdFORTY
dFIFTYdSIXTYdSEVENTYdEIGHTYdNINETYdONE HUNDREDdTWO.dTHREE.dFOUR.dFIVE.dSIX.dSEVEN.dEIGHT.dNINE.
dONE THOUSANDdTWO.dTHREE.dFOUR.dFIVE.dSIX.dSEVEN.dEIGHT.dNINE.dTEN.dTWENTY.dTHIRTY.dFORTY.dFIFTY.
dSIXTY.dSEVENTY.dEIGHTY.dNINETY.cMARRATANcALTERNATE NUMBER TWOeTHREEeFOUReFIVEeSIXeSEVENeEIGHT
eNINEeTENeFOUR HUNDREDeSIX.eTWO THOUSANDeTEN.cFRACTION ONE HALFeSIXTH
1EE00aARABIC MATHEMATICAL ALEFcBEHcJEEMcDAL
1EE05cWAWcZAINcHAHcTAHcYEHcKAFcLAMcMEEMcNOONcSEENcAINcFEHcSADcQAFcREHcSHEENcTEHcTHEHcKHAHcTHALcDAD
cZAHcGHAINcDOTLESS BEHdNOONdFEHdQAF
1EE21cINITIAL BEHdJEEM
1EE24dHEH
1EE27dHAH
1EE29dYEHdKAFdLAMdMEEMdNOONdSEENdAINdFEHdSADdQAF
1EE34dSHEENdTEHdTHEHdKHAH
1EE39dDAD
1EE3BdGHAIN
1EE42cTAILED JEEM
1EE47dHAH
1EE49dYEH
1EE4BdLAM
1EE4DdNOONdSEENdAIN
1EE51dSADdQAF
1EE54dSHEEN
1EE57dKHAH
1EE59dDAD
1EE5BdGHAIN
1EE5DdDOTLESS NOON
1EE5FeQAF
1EE61cSTRETCHED BEHdJEEM
1EE64dHEH
1EE67dHAHdTAHdYEHdKAF
1EE6CdMEEMdNOONdSEENdAINdFEHdSADdQAF
1EE74dSHEENdTEHdTHEHdKHAH
1EE79dDADdZAHdGHAINdDOTLESS BEH
1EE7EeFEH
1EE80cLOOPED ALEFdBEHdJEEMdDALdHEHdWAWdZAINdHAHdTAHdYEH
1EE8BdLAMdMEEMdNOONdSEENdAINdFEHdSADdQAFdREHdSHEENdTEHdTHEHdKHAHdTHALdDADdZAHdGHAIN
1EEA1cDOUBLE-STRUCK BEHdJEEMdDAL
1EEA5dWAWdZAINdHAHdTAHdYEH
1EEABdLAMdMEEMdNOONdSEENdAINdFEHdSADdQAFdREHdSHEENdTEHdTHEHdKHAHdTHALdDADdZAHdGHAIN
1EEF0cOPERATOR MEEM WITH HAH WITH TATWEELdHAH WITH DAL
1F000aMAHJONG TILE EAST WINDcSOUTH.cWEST.cNORTH.cRED DRAGONcGREEN.cWHITE.cONE OF CHARACTERScTWO..
cTHREE..cFOUR..cFIVE..cSIX..cSEVEN..cEIGHT..cNINE..cONE OF BAMBOOScTWO..cTHREE..cFOUR..cFIVE..
cSIX..cSEVEN..cEIGHT..cNINE..cONE OF CIRCLEScTWO..cTHREE..cFOUR..cFIVE..cSIX..cSEVEN..cEIGHT..
cNINE..cPLUMcORCHIDcBAMBOOcCHRYSANTHEMUMcSPRINGcSUMMERcAUTUMNcWINTERcJOKERcBACK
1F030aDOMINO TILE HORIZONTAL.cHORIZONTAL-00-00cHORIZONTAL-00-01cHORIZONTAL-00-02cHORIZONTAL-00-03
cHORIZONTAL-00-04cHORIZONTAL-00-05cHORIZONTAL-00-06cHORIZONTAL-01-00cHORIZONTAL-01-01
cHORIZONTAL-01-02cHORIZONTAL-01-03cHORIZONTAL-01-04cHORIZONTAL-01-05cHORIZONTAL-01-06
cHORIZONTAL-02-00cHORIZONTAL-02-01cHORIZONTAL-02-02cHORIZONTAL-02-03cHORIZONTAL-02-04
cHORIZONTAL-02-05cHORIZONTAL-02-06cHORIZONTAL-03-00cHORIZONTAL-03-01cHORIZONTAL-03-02
cHORIZONTAL-03-03cHORIZONTAL-03-04cHORIZONTAL-03-05cHORIZONTAL-03-06cHORIZONTAL-04-00
cHORIZONTAL-04-01cHORIZONTAL-04-02cHORIZONTAL-04-03cHORIZONTAL-04-04cHORIZONTAL-04-05
cHORIZONTAL-04-06cHORIZONTAL-05-00cHORIZONTAL-05-01cHORIZONTAL-05-02cHORIZONTAL-05-03
cHORIZONTAL-05-04cHORIZONTAL-05-05cHORIZONTAL-05-06cHORIZONTAL-06-00cHORIZONTAL-06-01
cHORIZONTAL-06-02cHORIZONTAL-06-03cHORIZONTAL-06-04cHORIZONTAL-06-05cHORIZONTAL-06-06
cVERTICAL BACKcVERTICAL-00-00cVERTICAL-00-01cVERTICAL-00-02cVERTICAL-00-03cVERTICAL-00-04
cVERTICAL-00-05cVERTICAL-00-06cVERTICAL-01-00cVERTICAL-01-01cVERTICAL-01-02cVERTICAL-01-03
cVERTICAL-01-04cVERTICAL-01-05cVERTICAL-01-06cVERTICAL-02-00cVERTICAL-02-01cVERTICAL-02-02
cVERTICAL-02-03cVERTICAL-02-04cVERTICAL-02-05cVERTICAL-02-06cVERTICAL-03-00cVERTICAL-03-01
cVERTICAL-03-02cVERTICAL-03-03cVERTICAL-03-04cVERTICAL-03-05cVERTICAL-03-06cVERTICAL-04-00
cVERTICAL-04-01cVERTICAL-04-02cVERTICAL-04-03cVERTICAL-04-04cVERTICAL-04-05cVERTICAL-04-06
cVERTICAL-05-00cVERTICAL-05-01cVERTICAL-05-02cVERTICAL-05-03cVERTICAL-05-04cVERTICAL-05-05
cVERTICAL-05-06cVERTICAL-06-00cVERTICAL-06-01cVERTICAL-06-02cVERTICAL-06-03cVERTICAL-06-04
cVERTICAL-06-05cVERTICAL-06-06
1F0A0aPLAYING CARD BACKcACE OF SPADEScTWO..cTHREE..cFOUR..cFIVE..cSIX..cSEVEN..cEIGHT..cNINE..
cTEN..cJACK..cKNIGHT..cQUEEN..cKING..
1F0B1cACE OF HEARTScTWO..cTHREE..cFOUR..cFIVE..cSIX..cSEVEN..cEIGHT..cNINE..cTEN..cJACK..cKNIGHT..
cQUEEN..cKING..cRED JOKER
1F0C1cACE OF DIAMONDScTWO..cTHREE..cFOUR..cFIVE..cSIX..cSEVEN..cEIGHT..cNINE..cTEN..cJACK..
cKNIGHT..cQUEEN..cKING..cBLACK JOKER
1F0D1cACE OF CLUBScTWO..cTHREE..cFOUR..cFIVE..cSIX..cSEVEN..cEIGHT..cNINE..cTEN..cJACK..cKNIGHT..
cQUEEN..cKING..cWHITE JOKERcFOOLcTRUMP-1cTRUMP-2cTRUMP-3cTRUMP-4cTRUMP-5cTRUMP-6cTRUMP-7cTRUMP-8
cTRUMP-9cTRUMP-10cTRUMP-11cTRUMP-12cTRUMP-13cTRUMP-14cTRUMP-15cTRUMP-16cTRUMP-17cTRUMP-18cTRUMP-19
cTRUMP-20cTRUMP-21
1F100aDIGIT ZERO FULL STOPcCOMMAbONE.bTWO.bTHREE.bFOUR.bFIVE.bSIX.bSEVEN.bEIGHT.bNINE.
aDINGBAT CIRCLED SANS-SERIF DIGIT ZERObNEGATIVE....aCIRCLED ZERO WITH SLASHbANTICLOCKWISE ARROW
bDOLLAR SIGN WITH OVERLAID BACKSLASHaPARENTHESIZED LATIN CAPITAL LETTER AeBeCeDeEeFeGeHeIeJeKeLeM
eNeOePeQeReSeTeUeVeWeXeYeZaTORTOISE SHELL BRACKETED LATIN CAPITAL LETTER S
aCIRCLED ITALIC LATIN CAPITAL LETTER CfRbCDbWZaCOPYLEFT SYMBOLaSQUARED LATIN CAPITAL LETTER AeBeC
eDeEeFeGeHeIeJeKeLeMeNeOePeQeReSeTeUeVeWeXeYeZbHVbMVbSDbSSbPPVbWC
aNEGATIVE CIRCLED LATIN CAPITAL LETTER AfBfCfDfEfFfGfHfIfJfKfLfMfNfOfPfQfRfSfTfUfVfWfXfYfZ
aRAISED MC SIGNbMD.bMR.aCIRCLED CCbC WITH OVERLAID BACKSLASHbHUMAN FIGURE
aNEGATIVE SQUARED LATIN CAPITAL LETTER AfBfCfDfEfFfGfHfIfJfKfLfMfNfOfPfQfRfSfTfUfVfWfXfYfZ
aCROSSED NEGATIVE SQUARED LATIN CAPITAL LETTER PaNEGATIVE SQUARED ICcPAcSAcABcWCaSQUARE DJ
aSQUARED CLbCOOLbFREEbIDbNEWbNGbOKbSOSbUP WITH EXCLAMATION MARKbVSbTHREE DbSECOND SCREENbTWO K
bFOUR.bEIGHT.bFIVE POINT ONEbSEVEN..bTWENTY-TWO POINT TWObSIXTY PbONE HUNDRED TWENTY.
bLATIN SMALL LETTER DbHCbHDRbHI-RESbLOSSLESSbSHVbUHDbVODaMASK WORK SYMBOL
1F1E6aREGIONAL INDICATOR SYMBOL LETTER AeBeCeDeEeFeGeHeIeJeKeLeMeNeOePeQeReSeTeUeVeWeXeYeZ
aSQUARE HIRAGANA HOKAaSQUARED KATAKANA KOKOcSA
1F210bCJK UNIFIED IDEOGRAPH-624BdIDEOGRAPH-5B57dIDEOGRAPH-53CCbKATAKANA DE
bCJK UNIFIED IDEOGRAPH-4E8CdIDEOGRAPH-591AdIDEOGRAPH-89E3dIDEOGRAPH-5929dIDEOGRAPH-4EA4
dIDEOGRAPH-6620dIDEOGRAPH-7121dIDEOGRAPH-6599dIDEOGRAPH-524DdIDEOGRAPH-5F8CdIDEOGRAPH-518D
dIDEOGRAPH-65B0dIDEOGRAPH-521DdIDEOGRAPH-7D42dIDEOGRAPH-751FdIDEOGRAPH-8CA9dIDEOGRAPH-58F0
dIDEOGRAPH-5439dIDEOGRAPH-6F14dIDEOGRAPH-6295dIDEOGRAPH-6355dIDEOGRAPH-4E00dIDEOGRAPH-4E09
dIDEOGRAPH-904AdIDEOGRAPH-5DE6dIDEOGRAPH-4E2DdIDEOGRAPH-53F3dIDEOGRAPH-6307dIDEOGRAPH-8D70
dIDEOGRAPH-6253dIDEOGRAPH-7981dIDEOGRAPH-7A7AdIDEOGRAPH-5408dIDEOGRAPH-6E80dIDEOGRAPH-6709
dIDEOGRAPH-6708dIDEOGRAPH-7533dIDEOGRAPH-5272dIDEOGRAPH-55B6dIDEOGRAPH-914D
1F240aTORTOISE SHELL BRACKETED CJK UNIFIED IDEOGRAPH-672CfIDEOGRAPH-4E09fIDEOGRAPH-4E8C
fIDEOGRAPH-5B89fIDEOGRAPH-70B9fIDEOGRAPH-6253fIDEOGRAPH-76D7fIDEOGRAPH-52DDfIDEOGRAPH-6557
1F250aCIRCLED IDEOGRAPH ADVANTAGEcACCEPT
1F260aROUNDED SYMBOL FOR FUdLUdSHOUdXIdSHUANGXIdCAI
1F300aCYCLONEaFOGGYaCLOSED UMBRELLAaNIGHT WITH STARSaSUNRISE OVER MOUNTAINSbaCITYSCAPE AT DUSK
aSUNSET OVER BUILDINGSaRAINBOWaBRIDGE AT NIGHTaWATER WAVEaVOLCANOaMILKY WAY
aEARTH GLOBE EUROPE-AFRICAcAMERICAScASIA-AUSTRALIAaGLOBE WITH MERIDIANSaNEW MOON SYMBOL
aWAXING CRESCENT..aFIRST QUARTER..aWAXING GIBBOUS..aFULL..aWANING GIBBOUS..aLAST QUARTER..
aWANING CRESCENT..aCRESCENT MOONaNEW MOON WITH FACEaFIRST QUARTER...aLAST....aFULL...aSUN..
aGLOWING STARaSHOOTING.aTHERMOMETERaBLACK DROPLETaWHITE SUNcWITH SMALL CLOUDcBEHIND.eWITH RAINa...
cSNOWcLIGHTNINGcTORNADOaFOGaWIND BLOWING FACEaHOT DOGaTACOaBURRITOaCHESTNUTaSEEDLING
aEVERGREEN TREEaDECIDUOUS.aPALM.aCACTUSaHOT PEPPERaTULIPaCHERRY BLOSSOMaROSEaHIBISCUSaSUNFLOWER
aBLOSSOMaEAR OF MAIZEcRICEaHERBaFOUR LEAF CLOVERaMAPLE LEAFaFALLEN.aLEAF FLUTTERING IN WIND
aMUSHROOMaTOMATOaAUBERGINEaGRAPESaMELONaWATERMELONaTANGERINEaLEMONaBANANAaPINEAPPLEaRED APPLE
aGREEN.aPEARaPEACHaCHERRIESaSTRAWBERRYaHAMBURGERaSLICE OF PIZZAaMEAT ON BONEaPOULTRY LEG
aRICE CRACKERbBALLaCOOKED RICEaCURRY AND.aSTEAMING BOWLaSPAGHETTIaBREADaFRENCH FRIES
aROASTED SWEET POTATOaDANGOaODENaSUSHIaFRIED SHRIMPaFISH CAKE WITH SWIRL DESIGNaSOFT ICE CREAM
aSHAVED ICEaICE CREAMaDOUGHNUTaCOOKIEaCHOCOLATE BARaCANDYaLOLLIPOPaCUSTARDaHONEY POTaSHORTCAKE
aBENTO BOXaPOT OF FOODaCOOKINGaFORK AND KNIFEaTEACUP WITHOUT HANDLEaSAKE BOTTLE AND CUPaWINE GLASS
aCOCKTAIL.aTROPICAL DRINKaBEER MUGaCLINKING BEER MUGSaBABY BOTTLEaFORK AND KNIFE WITH PLATE
aBOTTLE WITH POPPING CORKaPOPCORNaRIBBONaWRAPPED PRESENTaBIRTHDAY CAKEaJACK-O-LANTERN
aCHRISTMAS TREEaFATHER CHRISTMASaFIREWORKSaFIREWORK SPARKLERaBALLOONaPARTY POPPERaCONFETTI BALL
aTANABATA TREEaCROSSED FLAGSaPINE DECORATIONaJAPANESE DOLLSaCARP STREAMERaWIND CHIME
aMOON VIEWING CEREMONYaSCHOOL SATCHELaGRADUATION CAPaHEART WITH TIP ON THE LEFTaBOUQUET OF FLOWERS
aMILITARY MEDALaREMINDER RIBBONaMUSICAL KEYBOARD WITH JACKSaSTUDIO MICROPHONEaLEVEL SLIDER
aCONTROL KNOBSaBEAMED ASCENDING MUSICAL NOTESbDESCENDING..aFILM FRAMESaADMISSION TICKETS
aCAROUSEL HORSEaFERRIS WHEELaROLLER COASTERaFISHING POLE AND FISHaMICROPHONEaMOVIE CAMERAaCINEMA
aHEADPHONEaARTIST PALETTEaTOP HATaCIRCUS TENTaTICKETaCLAPPER BOARDaPERFORMING ARTSaVIDEO GAME
aDIRECT HITaSLOT MACHINEaBILLIARDSaGAME DIEaBOWLINGaFLOWER PLAYING CARDSaMUSICAL NOTE
aMULTIPLE MUSICAL NOTESaSAXOPHONEaGUITARaMUSICAL KEYBOARDaTRUMPETaVIOLINaMUSICAL SCORE
aRUNNING SHIRT WITH SASHaTENNIS RACQUET AND BALLaSKI AND SKI BOOTaBASKETBALL AND HOOP
aCHEQUERED FLAGaSNOWBOARDERaRUNNERaSURFERaSPORTS MEDALaTROPHYaHORSE RACINGaAMERICAN FOOTBALL
aRUGBY.aSWIMMERaWEIGHT LIFTERaGOLFERaRACING MOTORCYCLEbCARaCRICKET BAT AND BALLaVOLLEYBALL
aFIELD HOCKEY STICK AND BALLaICE HOCKEY STICK AND PUCKaTABLE TENNIS PADDLE AND BALL
aSNOW CAPPED MOUNTAINaCAMPINGaBEACH WITH UMBRELLAaBUILDING CONSTRUCTIONaHOUSE BUILDINGSaCITYSCAPE
aDERELICT HOUSE BUILDINGaCLASSICAL.aDESERTbISLANDaNATIONAL PARKaSTADIUMaHOUSE BUILDINGbWITH GARDEN
aOFFICE BUILDINGaJAPANESE POST OFFICEaEUROPEAN..aHOSPITALaBANKaAUTOMATED TELLER MACHINEaHOTEL
aLOVE.aCONVENIENCE STOREaSCHOOLaDEPARTMENT STOREaFACTORYaIZAKAYA LANTERNaJAPANESE CASTLEaEUROPEAN.
aWHITE PENNANTaBLACK.aWAVING WHITE FLAGbBLACK.aROSETTEaBLACK.aLABEL
aBADMINTON RACQUET AND SHUTTLECOCKaBOW AND ARROWaAMPHORAaEMOJI MODIFIER FITZPATRICK TYPE-1-2
dTYPE-3dTYPE-4dTYPE-5dTYPE-6aRATaMOUSEaOXaWATER BUFFALOaCOWaTIGERaLEOPARDaRABBITaCATaDRAGON
aCROCODILEaWHALEaSNAILaSNAKEaHORSEaRAMaGOATaSHEEPaMONKEYaROOSTERaCHICKENaDOGaPIGaBOARaELEPHANT
aOCTOPUSaSPIRAL SHELLaBUGaANTaHONEYBEEaLADY BEETLEaFISHaTROPICAL.aBLOWFISHaTURTLEaHATCHING CHICK
aBABY.aFRONT-FACING..aBIRDaPENGUINaKOALAaPOODLEaDROMEDARY CAMELaBACTRIAN.aDOLPHINaMOUSE FACEaCOW.
aTIGER.aRABBIT.aCAT.aDRAGON.aSPOUTING WHALEaHORSE FACEaMONKEY.aDOG.aPIG.aFROG.aHAMSTER.aWOLF.
aBEAR.aPANDA.aPIG NOSEaPAW PRINTSaCHIPMUNKaEYESaEYEaEARaNOSEaMOUTHaTONGUE
aWHITE UP POINTING BACKHAND INDEXbDOWN...bLEFT...bRIGHT...aFISTED HAND SIGNaWAVING..aOK..
aTHUMBS UP.bDOWN.aCLAPPING HANDS.aOPEN..aCROWNaWOMANS HATaEYEGLASSESaNECKTIEaT-SHIRTaJEANSaDRESS
aKIMONOaBIKINIaWOMANS CLOTHESaPURSEaHANDBAGaPOUCHaMANS SHOEaATHLETIC.aHIGH-HEELED.aWOMANS SANDAL
bBOOTSaFOOTPRINTSaBUST IN SILHOUETTEaBUSTS..aBOYaGIRLaMANaWOMANaFAMILYaMAN AND WOMAN HOLDING HANDS
aTWO MEN..bWOMEN..aPOLICE OFFICERaWOMAN WITH BUNNY EARSaBRIDE WITH VEILaPERSON WITH BLOND HAIR
aMAN WITH GUA PI MAOcTURBANaOLDER MANbWOMANaBABYaCONSTRUCTION WORKERaPRINCESSaJAPANESE OGREbGOBLIN
aGHOSTaBABY ANGELaEXTRATERRESTRIAL ALIENaALIEN MONSTERaIMPaSKULLaINFORMATION DESK PERSONaGUARDSMAN
aDANCERaLIPSTICKaNAIL POLISHaFACE MASSAGEaHAIRCUTaBARBER POLEaSYRINGEaPILLaKISS MARKaLOVE LETTER
aRINGaGEM STONEaKISSaBOUQUETaCOUPLE WITH HEARTaWEDDINGaBEATING HEARTaBROKEN.aTWO HEARTS
aSPARKLING HEARTaGROWING.aHEART WITH ARROWaBLUE HEARTaGREEN.aYELLOW.aPURPLE.aHEART WITH RIBBON
aREVOLVING HEARTSaHEART DECORATIONaDIAMOND SHAPE WITH A DOT INSIDEaELECTRIC LIGHT BULB
aANGER SYMBOLaBOMBaSLEEPING SYMBOLaCOLLISION.aSPLASHING SWEAT.aDROPLETaDASH SYMBOLaPILE OF POO
aFLEXED BICEPSaDIZZY SYMBOLaSPEECH BALLOONaTHOUGHT.aWHITE FLOWERaHUNDRED POINTS SYMBOLaMONEY BAG
aCURRENCY EXCHANGEaHEAVY DOLLAR SIGNaCREDIT CARDaBANKNOTE WITH YEN SIGNcDOLLAR.cEURO.cPOUND.
aMONEY WITH WINGSaCHART WITH UPWARDS TREND AND YEN SIGNaSEATaPERSONAL COMPUTERaBRIEFCASEaMINIDISC
aFLOPPY DISKaOPTICAL DISCaDVDaFILE FOLDERaOPEN..aPAGE WITH CURLbFACING UPaCALENDARaTEAR-OFF.
aCARD INDEXaCHART WITH UPWARDS TRENDcDOWNWARDS.aBAR CHARTaCLIPBOARDaPUSHPINaROUND.aPAPERCLIP
aSTRAIGHT RULERaTRIANGULAR.aBOOKMARK TABSaLEDGERaNOTEBOOKbWITH DECORATIVE COVERaCLOSED BOOKaOPEN.
aGREEN.aBLUE.aORANGE.aBOOKSaNAME BADGEaSCROLLaMEMOaTELEPHONE RECEIVERaPAGERaFAX MACHINE
aSATELLITE ANTENNAaPUBLIC ADDRESS LOUDSPEAKERaCHEERING MEGAPHONEaOUTBOX TRAYaINBOX.aPACKAGE
aE-MAIL SYMBOLaINCOMING ENVELOPEaENVELOPE WITH DOWNWARDS ARROW ABOVE
aCLOSED MAILBOX WITH LOWERED FLAGdRAISED.aOPEN....dLOWERED.aPOSTBOXaPOSTAL HORNaNEWSPAPER
aMOBILE PHONEcWITH RIGHTWARDS ARROW AT LEFTaVIBRATION MODEaMOBILE PHONE OFFaNO MOBILE PHONES
aANTENNA WITH BARSaCAMERAbWITH FLASHaVIDEO CAMERAaTELEVISIONaRADIOaVIDEOCASSETTEaFILM PROJECTOR
aPORTABLE STEREOaPRAYER BEADSaTWISTED RIGHTWARDS ARROWS
aCLOCKWISE RIGHTWARDS AND LEFTWARDS OPEN CIRCLE.hWITH CIRCLED ONE OVERLAY
bDOWNWARDS AND UPWARDS OPEN CIRCLE ARROWSaANTICLOCKWISE......aLOW BRIGHTNESS SYMBOLaHIGH..
aSPEAKER WITH CANCELLATION STROKEbbWITH ONE SOUND WAVEcTHREE SOUND WAVESaBATTERYaELECTRIC PLUG
aLEFT-POINTING MAGNIFYING GLASSaRIGHT-POINTING..aLOCK WITH INK PENaCLOSED LOCK WITH KEYa.aLOCK
aOPEN.aBELLbWITH CANCELLATION STROKEaBOOKMARKaLINK SYMBOLaRADIO BUTTON
aBACK WITH LEFTWARDS ARROW ABOVEaEND....aON WITH EXCLAMATION MARK WITH LEFT RIGHT..
aSOON WITH RIGHTWARDS..aTOP WITH UPWARDS..aNO ONE UNDER EIGHTEEN SYMBOLaKEYCAP TEN
aINPUT SYMBOL FOR LATIN CAPITAL LETTERSeSMALL.dNUMBERSdSYMBOLSdLATIN LETTERSaFIREaELECTRIC TORCH
aWRENCHaHAMMERaNUT AND BOLTaHOCHOaPISTOLaMICROSCOPEaTELESCOPEaCRYSTAL BALL
aSIX POINTED STAR WITH MIDDLE DOTaJAPANESE SYMBOL FOR BEGINNERaTRIDENT EMBLEMaBLACK SQUARE BUTTON
aWHITE..aLARGE RED CIRCLEbBLUE.bORANGE DIAMONDbBLUE.aSMALL ORANGE.bBLUE.aUP-POINTING RED TRIANGLE
aDOWN-POINTING..aUP-POINTING SMALL..aDOWN-POINTING...aLOWER RIGHT SHADOWED WHITE CIRCLEaUPPER....
aCIRCLED CROSS POMMEEaCROSS POMMEE WITH HALF-CIRCLE BELOWcaNOTCHED LEFT SEMICIRCLE WITH THREE DOTS
bRIGHT....aSYMBOL FOR MARKS CHAPTERaWHITE LATIN CROSSaHEAVY..aCELTIC.aOM SYMBOLaDOVE OF PEACE
aKAABAaMOSQUEaSYNAGOGUEaMENORAH WITH NINE BRANCHESaBOWL OF HYGIEIAaCLOCK FACE ONE OCLOCKcTWO.
cTHREE.cFOUR.cFIVE.cSIX.cSEVEN.cEIGHT.cNINE.cTEN.cELEVEN.cTWELVE.cONE-THIRTYcTWO-THIRTY
cTHREE-THIRTYcFOUR-THIRTYcFIVE-THIRTYcSIX-THIRTYcSEVEN-THIRTYcEIGHT-THIRTYcNINE-THIRTYcTEN-THIRTY
cELEVEN-THIRTYcTWELVE-THIRTYaRIGHT SPEAKERcWITH ONE SOUND WAVEdTHREE SOUND WAVESaBULLHORN
bWITH SOUND WAVESaRINGING BELLaBOOKaCANDLEaMANTELPIECE CLOCKaBLACK SKULL AND CROSSBONESaNO PIRACY
aHOLEaMAN IN BUSINESS SUIT LEVITATINGaSLEUTH OR SPYaDARK SUNGLASSESaSPIDERbWEBaJOYSTICK
aMAN DANCINGaLEFT HAND TELEPHONE RECEIVERaTELEPHONE RECEIVER WITH PAGE
aRIGHT HAND TELEPHONE RECEIVERaWHITE TOUCHTONE TELEPHONEaBLACK..aTELEPHONE ON TOP OF MODEM
aCLAMSHELL MOBILE PHONEaBACK OF ENVELOPEaSTAMPED.aENVELOPE WITH LIGHTNINGaFLYING ENVELOPE
aPEN OVER STAMPED.aLINKED PAPERCLIPSaBLACK PUSHPINaLOWER LEFT PENCILcBALLPOINT PENcFOUNTAIN.
cPAINTBRUSHcCRAYONaLEFT WRITING HANDaTURNED OK HAND SIGNaRAISED HAND WITH FINGERS SPLAYED
aREVERSED.....bTHUMBS UP SIGNcDOWN.bVICTORY HANDbHAND WITH MIDDLE FINGER EXTENDED
aRAISED HAND WITH PART BETWEEN MIDDLE AND RING FINGERSaWHITE DOWN POINTING LEFT HAND INDEX
aSIDEWAYS WHITE LEFT POINTING.cRIGHT..bBLACK LEFT..cRIGHT..aBLACK LEFT POINTING BACKHAND.bRIGHT...
aSIDEWAYS WHITE UP POINTING.cDOWN..bBLACK UP..cDOWN..aBLACK UP POINTING BACKHAND.bDOWN...bHEART
aDESKTOP COMPUTERaKEYBOARD AND MOUSEaTHREE NETWORKED COMPUTERSaPRINTERaPOCKET CALCULATOR
aBLACK HARD SHELL FLOPPY DISKaWHITE....aSOFT...aTAPE CARTRIDGEaWIRED KEYBOARDaONE BUTTON MOUSE
aTWO..aTHREE..aTRACKBALLaOLD PERSONAL COMPUTERaHARD DISKaSCREENaPRINTER ICONaFAX.aOPTICAL DISC.
aDOCUMENT WITH TEXTdAND PICTUREc.aFRAME..cTILEScAN XaBLACK FOLDERa.aOPEN.aCARD INDEX DIVIDERS
bFILE BOXaFILE CABINETaEMPTY NOTEcPAGEcPADaNOTEbPAGEbPADaEMPTY DOCUMENTbPAGEbPAGESaDOCUMENTaPAGE
aPAGESaWASTEBASKETaSPIRAL NOTE PADbCALENDAR.aDESKTOP WINDOWaMINIMIZEaMAXIMIZEaOVERLAP
aCLOCKWISE RIGHT AND LEFT SEMICIRCLE ARROWSaCANCELLATION XaINCREASE FONT SIZE SYMBOLaDECREASE...
aCOMPRESSIONaOLD KEYaROLLED-UP NEWSPAPERaPAGE WITH CIRCLED TEXTaSTOCK CHARTaDAGGER KNIFEaLIPS
aSPEAKING HEAD IN SILHOUETTEaTHREE RAYS ABOVEcBELOWcLEFTcRIGHTaLEFT SPEECH BUBBLEaRIGHT..
aTWO SPEECH BUBBLESaTHREE..aLEFT THOUGHT BUBBLEaRIGHT..aLEFT ANGER.aRIGHT..aMOOD.aLIGHTNING..c
aBALLOT BOX WITH BALLOTbSCRIPT XbBOX WITH..bBOLD..bBOX WITH...aLIGHT CHECK MARK
aBALLOT BOX WITH BOLD CHECKaWORLD MAPaMOUNT FUJIaTOKYO TOWERaSTATUE OF LIBERTYaSILHOUETTE OF JAPAN
aMOYAIaGRINNING FACEcWITH SMILING EYESaFACE WITH TEARS OF JOYaSMILING FACE WITH OPEN MOUTH
fAND SMILING EYESgCOLD SWEATgTIGHTLY-CLOSED EYESdHALOdHORNSaWINKING FACE
aSMILING FACE WITH SMILING EYESaFACE SAVOURING DELICIOUS FOODaRELIEVED FACE
aSMILING FACE WITH HEART-SHAPED EYESdSUNGLASSESaSMIRKING FACEaNEUTRAL.aEXPRESSIONLESS.aUNAMUSED.
aFACE WITH COLD SWEATaPENSIVE FACEaCONFUSED.aCONFOUNDED.aKISSING.aFACE THROWING A KISS
aKISSING FACE WITH SMILING EYESdCLOSED.aFACE WITH STUCK-OUT TONGUEeAND WINKING EYE
fTIGHTLY-CLOSED EYESaDISAPPOINTED FACEaWORRIED.aANGRY.aPOUTING.aCRYING.aPERSEVERING.
aFACE WITH LOOK OF TRIUMPHaDISAPPOINTED BUT RELIEVED FACEaFROWNING FACE WITH OPEN MOUTH
aANGUISHED FACEaFEARFUL.aWEARY.aSLEEPY.aTIRED.aGRIMACING.aLOUDLY CRYING.aFACE WITH OPEN MOUTH
aHUSHED FACEaFACE WITH OPEN MOUTH AND COLD SWEATbSCREAMING IN FEARaASTONISHED FACEaFLUSHED.
aSLEEPING.aDIZZY.aFACE WITHOUT MOUTHbWITH MEDICAL MASKaGRINNING CAT FACE WITH SMILING EYES
aCAT FACE WITH TEARS OF JOYaSMILING CAT FACE WITH OPEN MOUTHeHEART-SHAPED EYES
aCAT FACE WITH WRY SMILEaKISSING CAT FACE WITH CLOSED EYESaPOUTING CAT FACEaCRYING..aWEARY..
aSLIGHTLY FROWNING.bSMILING.aUPSIDE-DOWN.aFACE WITH ROLLING EYEScNO GOOD GESTUREcOK.
aPERSON BOWING DEEPLYaSEE-NO-EVIL MONKEYaHEAR-NO-EVIL.aSPEAK-NO-EVIL.
aHAPPY PERSON RAISING ONE HANDaPERSON RAISING BOTH HANDS IN CELEBRATIONbFROWNINGbWITH POUTING FACE
cFOLDED HANDSaNORTH WEST POINTING LEAFaSOUTH...aNORTH EAST..aSOUTH...aTURNED NORTH WEST..bSOUTH...
bNORTH EAST..bSOUTH...aNORTH WEST POINTING VINE.aSOUTH....aNORTH EAST...aSOUTH....
aHEAVY NORTH WEST...bSOUTH....bNORTH EAST...bSOUTH....aNORTH WEST POINTING BUDaSOUTH...
aNORTH EAST..aSOUTH...aHEAVY NORTH WEST..bSOUTH...bNORTH EAST..bSOUTH...
aHOLLOW QUILT SQUARE ORNAMENTeIN BLACK SQUAREaSOLID QUILT SQUARE ORNAMENTeIN BLACK SQUARE
aLEFTWARDS ROCKETaUPWARDS.aRIGHTWARDS.aDOWNWARDS.aSCRIPT LIGATURE ET ORNAMENTaHEAVY....
aLIGATURE OPEN..aHEAVY....bAMPERSAND.aSWASH..aSANS-SERIF HEAVY DOUBLE TURNED COMMA QUOTATION MARK.
d....cLOW.....aHEAVY INTERROBANG.aSANS-SERIF..aHEAVY...aVERY HEAVY SOLIDUScREVERSE.aCHECKER BOARD
aREVERSE..aROCKETaHELICOPTERaSTEAM LOCOMOTIVEaRAILWAY CARaHIGH-SPEED TRAINcWITH BULLET NOSEaTRAIN
aMETROaLIGHT RAILaSTATIONaTRAMbCARaBUSaONCOMING.aTROLLEYBUSaBUS STOPaMINIBUSaAMBULANCEaFIRE ENGINE
aPOLICE CARaONCOMING..aTAXIaONCOMING.aAUTOMOBILEaONCOMING.aRECREATIONAL VEHICLEaDELIVERY TRUCK
aARTICULATED LORRYaTRACTORaMONORAILaMOUNTAIN RAILWAYaSUSPENSION.aMOUNTAIN CABLEWAYaAERIAL TRAMWAY
aSHIPaROWBOATaSPEEDBOATaHORIZONTAL TRAFFIC LIGHTaVERTICAL..aCONSTRUCTION SIGN
aPOLICE CARS REVOLVING LIGHTaTRIANGULAR FLAG ON POSTaDOORaNO ENTRY SIGNaSMOKING SYMBOLaNO..
aPUT LITTER IN ITS PLACE.aDO NOT LITTER.aPOTABLE WATER.aNON-POTABLE..aBICYCLEaNO BICYCLES
aBICYCLISTaMOUNTAIN.aPEDESTRIANaNO PEDESTRIANSaCHILDREN CROSSINGaMENS SYMBOLaWOMENS.aRESTROOM
aBABY SYMBOLaTOILETaWATER CLOSETaSHOWERaBATHaBATHTUBaPASSPORT CONTROLaCUSTOMSaBAGGAGE CLAIM
aLEFT LUGGAGEaTRIANGLE WITH ROUNDED CORNERSaPROHIBITED SIGNaCIRCLED INFORMATION SOURCEaBOYS SYMBOL
aGIRLS.aCOUCH AND LAMPaSLEEPING ACCOMMODATIONaSHOPPING BAGSaBELLHOP BELLaBEDaPLACE OF WORSHIP
aOCTAGONAL SIGNaSHOPPING TROLLEYaSTUPAaPAGODAaHINDU TEMPLEaHUTaELEVATOR
1F6DDaPLAYGROUND SLIDEaWHEELaRING BUOYaHAMMER AND WRENCHaSHIELDaOIL DRUMaMOTORWAYaRAILWAY TRACK
aMOTOR BOATaUP-POINTING MILITARY AIRPLANEb.bSMALL.a..aNORTHEAST-POINTING.aAIRPLANE DEPARTURE
bARRIVING
1F6F0aSATELLITEaONCOMING FIRE ENGINEaDIESEL LOCOMOTIVEaPASSENGER SHIPaSCOOTERaMOTOR.aCANOEaSLED
aFLYING SAUCERaSKATEBOARDaAUTO RICKSHAWaPICKUP TRUCKaROLLER SKATE
1F700aALCHEMICAL SYMBOL FOR QUINTESSENCEdAIRdFIREdEARTHdWATERdAQUAFORTISdAQUA REGIAeREGIA-2eVITAE
eVITAE-2dVINEGARdVINEGAR-2dVINEGAR-3dSULFURdPHILOSOPHERS.dBLACK.dMERCURY SUBLIMATEeSUBLIMATE-2
eSUBLIMATE-3dCINNABARdSALTdNITREdVITRIOLdVITRIOL-2dROCK SALTeSALT-2dGOLDdSILVERdIRON OREeORE-2
dCROCUS OF IRONdREGULUS..dCOPPER OREdIRON-COPPER.dSUBLIMATE OF COPPERdCROCUS..fCOPPER-2
dCOPPER ANTIMONIATEdSALT OF..dSUBLIMATE OF SALT OF COPPERdVERDIGRISdTIN OREdLEAD.dANTIMONY.
dSUBLIMATE OF ANTIMONYdSALT..dSUBLIMATE OF...dVINEGAR..dREGULUS..fANTIMONY-2edREGULUS-2dREGULUS-3
dREGULUS-4dALKALIdALKALI-2dMARCASITEdSAL-AMMONIACdARSENICdREALGARdREALGAR-2dAURIPIGMENT
dBISMUTH OREdTARTARdTARTAR-2dQUICK LIMEdBORAXdBORAX-2dBORAX-3dALUMdOILdSPIRITdTINCTUREdGUMdWAX
dPOWDERdCALXdTUTTYdCAPUT MORTUUMdSCEPTER OF JOVEdCADUCEUSdTRIDENTdSTARRED.dLODESTONEdSOAPdURINE
dHORSE DUNGdASHESdPOT.dBRICKdPOWDERED.dAMALGAMdSTRATUM SUPER STRATUMfSTRATUM-2dSUBLIMATION
dPRECIPITATEdDISTILLdDISSOLVEdDISSOLVE-2dPURIFYdPUTREFACTIONdCRUCIBLEdCRUCIBLE-2dCRUCIBLE-3
dCRUCIBLE-4dCRUCIBLE-5dALEMBICdBATH OF MARYfVAPOURSdRETORTdHOURdNIGHTdDAY-NIGHTdMONTHdHALF DRAM
eOUNCE
1F780aBLACK LEFT-POINTING ISOSCELES RIGHT TRIANGLEbUP-POINTING...bRIGHT-POINTING...
bDOWN-POINTING...bSLIGHTLY SMALL CIRCLEaMEDIUM BOLD WHITE.a...aHEAVY..aVERY...aEXTREMELY...
aWHITE CIRCLE CONTAINING BLACK SMALL.aROUND TARGETaBLACK TINY SQUAREbSLIGHTLY SMALL.aLIGHT WHITE.
aMEDIUM..aBOLD..aHEAVY..aVERY...aEXTREMELY...aWHITE SQUARE CONTAINING BLACK VERY SMALL.eMEDIUM.
aSQUARE TARGETaBLACK TINY DIAMONDbVERY SMALL.bMEDIUM..aWHITE DIAMOND CONTAINING BLACK VERY..
eMEDIUM.aDIAMOND TARGETaBLACK TINY LOZENGEbVERY SMALL.bMEDIUM..aWHITE LOZENGE CONTAINING BLACK..
aTHIN GREEK CROSSaLIGHT..aMEDIUM..aBOLD..aVERY...bHEAVY..aEXTREMELY...aTHIN SALTIREaLIGHT.aMEDIUM.
aBOLD.aHEAVY.aVERY..aEXTREMELY..aLIGHT FIVE SPOKED ASTERISKaMEDIUM...aBOLD...aHEAVY...aVERY....
aEXTREMELY....aLIGHT SIX..aMEDIUM...aBOLD...aHEAVY...aVERY....aEXTREMELY....aLIGHT EIGHT..
aMEDIUM...aBOLD...aHEAVY...aVERY....aLIGHT THREE POINTED BLACK STARaMEDIUM....a....
aMEDIUM THREE POINTED PINWHEEL.aLIGHT FOUR POINTED BLACK.aMEDIUM....a....
aMEDIUM FOUR POINTED PINWHEEL.aREVERSE LIGHT....aLIGHT FIVE POINTED BLACK.aHEAVY....aMEDIUM SIX...
aHEAVY....aSIX POINTED PINWHEEL.aMEDIUM EIGHT POINTED BLACK.aHEAVY....aVERY.....
aHEAVY EIGHT POINTED PINWHEEL.aLIGHT TWELVE POINTED BLACK.aHEAVY....dPINWHEEL.aCIRCLED TRIANGLE
aNEGATIVE..aCIRCLED SQUAREaNEGATIVE..
1F7E0aLARGE ORANGE CIRCLEbYELLOW.bGREEN.bPURPLE.bBROWN.bRED SQUAREbBLUE.bORANGE.bYELLOW.bGREEN.
bPURPLE.bBROWN.
1F7F0aHEAVY EQUALS SIGN
1F800aLEFTWARDS ARROW WITH SMALL TRIANGLE ARROWHEADaUPWARDS.....aRIGHTWARDS.....aDOWNWARDS.....
aLEFTWARDS ARROW WITH MEDIUM..aUPWARDS.....aRIGHTWARDS.....aDOWNWARDS.....
aLEFTWARDS ARROW WITH LARGE..aUPWARDS.....aRIGHTWARDS.....aDOWNWARDS.....
1F810aLEFTWARDS ARROW WITH SMALL EQUILATERAL.aUPWARDS.....aRIGHTWARDS.....aDOWNWARDS.....
aLEFTWARDS ARROW WITH..aUPWARDS....aRIGHTWARDS....aDOWNWARDS....aHEAVY LEFTWARDS....bUPWARDS....
bRIGHTWARDS....bDOWNWARDS....bLEFTWARDS ARROW WITH LARGE..bUPWARDS.....bRIGHTWARDS.....
bDOWNWARDS.....aLEFTWARDS TRIANGLE-HEADED ARROW WITH NARROW SHAFTaUPWARDS.....aRIGHTWARDS.....
aDOWNWARDS.....aLEFTWARDS TRIANGLE-HEADED ARROW WITH MEDIUM.aUPWARDS.....aRIGHTWARDS.....
aDOWNWARDS.....aLEFTWARDS TRIANGLE-HEADED ARROW WITH BOLD.aUPWARDS.....aRIGHTWARDS.....
aDOWNWARDS.....aLEFTWARDS TRIANGLE-HEADED ARROW WITH HEAVY.aUPWARDS.....aRIGHTWARDS.....
aDOWNWARDS.....aLEFTWARDS TRIANGLE-HEADED ARROW WITH VERY..aUPWARDS......aRIGHTWARDS......
aDOWNWARDS......aLEFTWARDS FINGER-POST ARROWaUPWARDS..aRIGHTWARDS..aDOWNWARDS..aLEFTWARDS SQUARED.
aUPWARDS..aRIGHTWARDS..aDOWNWARDS..aLEFTWARDS COMPRESSED.aUPWARDS..aRIGHTWARDS..aDOWNWARDS..
aLEFTWARDS HEAVY..aUPWARDS...aRIGHTWARDS...aDOWNWARDS...aLEFTWARDS HEAVY.aUPWARDS..aRIGHTWARDS..
aDOWNWARDS..
1F850aLEFTWARDS SANS-SERIF.aUPWARDS..aRIGHTWARDS..aDOWNWARDS..aNORTH WEST..bEAST..aSOUTH...bWEST..
aLEFT RIGHT..aUP DOWN..
1F860aWIDE-HEADED LEFTWARDS LIGHT BARB.bUPWARDS...bRIGHTWARDS...bDOWNWARDS...bNORTH WEST...
cEAST...bSOUTH....cWEST...bLEFTWARDS..bUPWARDS..bRIGHTWARDS..bDOWNWARDS..bNORTH WEST..cEAST..
bSOUTH...cWEST..bLEFTWARDS MEDIUM..bUPWARDS...bRIGHTWARDS...bDOWNWARDS...bNORTH WEST...cEAST...
bSOUTH....cWEST...bLEFTWARDS HEAVY..bUPWARDS...bRIGHTWARDS...bDOWNWARDS...bNORTH WEST...cEAST...
bSOUTH....cWEST...bLEFTWARDS VERY...bUPWARDS....bRIGHTWARDS....bDOWNWARDS....bNORTH WEST....
cEAST....bSOUTH.....cWEST....
1F890aLEFTWARDS TRIANGLE ARROWHEADaUPWARDS..aRIGHTWARDS..aDOWNWARDS..
aLEFTWARDS WHITE ARROW WITHIN..aUPWARDS.....aRIGHTWARDS.....aDOWNWARDS.....
aLEFTWARDS ARROW WITH NOTCHED TAILaUPWARDS....aRIGHTWARDS....aDOWNWARDS....
aHEAVY ARROW SHAFT WIDTH ONEeTWO THIRDSeONE HALFfTHIRDaLEFTWARDS BOTTOM-SHADED WHITE ARROW
aRIGHTWARDS BOTTOM SHADED..aLEFTWARDS TOP...aRIGHTWARDS....aLEFTWARDS LEFT-SHADED..
aRIGHTWARDS RIGHT-SHADED..aLEFTWARDS...aRIGHTWARDS LEFT-SHADED..aLEFTWARDS BACK-TILTED SHADOWED..
aRIGHTWARDS....aLEFTWARDS FRONT-TILTED...aRIGHTWARDS....aWHITE ARROW SHAFT WIDTH ONEeTWO THIRDS
1F8B0aARROW POINTING UPWARDS THEN NORTH WESTcRIGHTWARDS THEN CURVING SOUTH.
1F900aCIRCLED CROSS FORMEE WITH FOUR DOTSeTWO.daLEFT HALF CIRCLE WITH FOUR DOTSeTHREE.eTWO.eDOTd
aDOWNWARD FACING HOOKcNOTCHED.cHOOK WITH DOTcNOTCHED...aPINCHED FINGERSaWHITE HEARTaBROWN.
aPINCHING HANDaZIPPER-MOUTH FACEaMONEY-MOUTH.aFACE WITH THERMOMETERaNERD FACEaTHINKING.
aFACE WITH HEAD-BANDAGEaROBOT FACEaHUGGING.aSIGN OF THE HORNSaCALL ME HANDaRAISED BACK OF.
aLEFT-FACING FISTaRIGHT-FACING.aHANDSHAKEaHAND WITH INDEX AND MIDDLE FINGERS CROSSED
aI LOVE YOU HAND SIGNaFACE WITH COWBOY HATaCLOWN FACEaNAUSEATED.aROLLING ON THE FLOOR LAUGHING
aDROOLING FACEaLYING.aFACE PALMaSNEEZING FACEaFACE WITH ONE EYEBROW RAISED
aGRINNING FACE WITH STAR EYESdONE LARGE AND ONE SMALL EYEaFACE WITH FINGER COVERING CLOSED LIPS
aSERIOUS FACE WITH SYMBOLS COVERING MOUTHaSMILING FACE WITH SMILING EYES AND HAND..
aFACE WITH OPEN MOUTH VOMITINGaSHOCKED FACE WITH EXPLODING HEADaPREGNANT WOMANaBREAST-FEEDING
aPALMS UP TOGETHERaSELFIEaPRINCEaMAN IN TUXEDOaMOTHER CHRISTMASaSHRUGaPERSON DOING CARTWHEEL
aJUGGLINGaFENCERaMODERN PENTATHLONaWRESTLERSaWATER POLOaHANDBALLaDIVING MASKaWILTED FLOWER
aDRUM WITH DRUMSTICKSaCLINKING GLASSESaTUMBLER GLASSaSPOONaGOAL NETaRIFLEaFIRST PLACE MEDAL
aSECOND..aTHIRD..aBOXING GLOVEaMARTIAL ARTS UNIFORMaCURLING STONEaLACROSSE STICK AND BALLaSOFTBALL
aFLYING DISCaCROISSANTaAVOCADOaCUCUMBERaBACONaPOTATOaCARROTaBAGUETTE BREADaGREEN SALAD
aSHALLOW PAN OF FOODaSTUFFED FLATBREADaEGGaGLASS OF MILKaPEANUTSaKIWIFRUITaPANCAKESaDUMPLING
aFORTUNE COOKIEaTAKEOUT BOXaCHOPSTICKSaBOWL WITH SPOONaCUP WITH STRAWaCOCONUTaBROCCOLIaPIEaPRETZEL
aCUT OF MEATaSANDWICHaCANNED FOODaLEAFY GREENaMANGOaMOON CAKEaBAGEL
aSMILING FACE WITH SMILING EYES AND THREE HEARTSaYAWNING FACEaSMILING FACE WITH TEAR
aFACE WITH PARTY HORN AND PARTY HATcUNEVEN EYES AND WAVY MOUTHaOVERHEATED FACEaFREEZING.aNINJA
aDISGUISED FACEaFACE HOLDING BACK TEARSbWITH PLEADING EYESaSARIaLAB COATaGOGGLESaHIKING BOOT
aFLAT SHOEaCRABaLION FACEaSCORPIONaTURKEYaUNICORN FACEaEAGLEaDUCKaBATaSHARKaOWLaFOX FACEaBUTTERFLY
aDEERaGORILLAaLIZARDaRHINOCEROSaSHRIMPaSQUIDaGIRAFFE FACEaZEBRA.aHEDGEHOGaSAUROPODaT-REXaCRICKET
aKANGAROOaLLAMAaPEACOCKaHIPPOPOTAMUSaPARROTaRACCOONaLOBSTERaMOSQUITOaMICROBEaBADGERaSWANaMAMMOTH
aDODOaSLOTHaOTTERaORANGUTANaSKUNKaFLAMINGOaOYSTERaBEAVERaBISONaSEALaGUIDE DOGaPROBING CANE
aEMOJI COMPONENT RED HAIRcCURLY.cBALDcWHITE HAIRaBONEaLEGaFOOTaTOOTHaSUPERHEROaSUPERVILLAIN
aSAFETY VESTaEAR WITH HEARING AIDaMOTORIZED WHEELCHAIRaMANUAL.aMECHANICAL ARMbLEGaCHEESE WEDGE
aCUPCAKEaSALT SHAKERaBEVERAGE BOXaGARLICaONIONaFALAFELaWAFFLEaBUTTERaMATE DRINKaICE CUBE
aBUBBLE TEAaTROLLaSTANDING PERSONaKNEELING.aDEAF.aFACE WITH MONOCLEaADULTaCHILDaOLDER ADULT
aBEARDED PERSONaPERSON WITH HEADSCARFbIN STEAMY ROOMbCLIMBINGbIN LOTUS POSITIONaMAGEaFAIRYaVAMPIRE
aMERPERSONaELFaGENIEaZOMBIEaBRAINaORANGE HEARTaBILLED CAPaSCARFaGLOVESaCOATaSOCKS
aRED GIFT ENVELOPEaFIRECRACKERaJIGSAW PUZZLE PIECEaTEST TUBEaPETRI DISHaDNA DOUBLE HELIXaCOMPASS
aABACUSaFIRE EXTINGUISHERaTOOLBOXaBRICKaMAGNETaLUGGAGEaLOTION BOTTLEaSPOOL OF THREADaBALL OF YARN
aSAFETY PINaTEDDY BEARaBROOMaBASKETaROLL OF PAPERaBAR OF SOAPaSPONGEaRECEIPTaNAZAR AMULET
aNEUTRAL CHESS KINGcQUEENcROOKcBISHOPcKNIGHTcPAWNaWHITE CHESS KNIGHT ROTATED FORTY-FIVE DEGREES
aBLACK.....aNEUTRAL.....aWHITE CHESS KING ROTATED NINETY.cQUEEN...cROOK...cBISHOP...cKNIGHT...
cPAWN...aBLACK CHESS KING...cQUEEN...cROOK...cBISHOP...cKNIGHT...cPAWN...aNEUTRAL CHESS KING...
cQUEEN...cROOK...cBISHOP...cKNIGHT...cPAWN...aWHITE CHESS KNIGHT ROTATED ONE HUNDRED THIRTY-FIVE.
aBLACK.......aNEUTRAL.......aWHITE CHESS TURNED KINGdQUEENdROOKdBISHOPdKNIGHTdPAWN
aBLACK CHESS TURNED KINGdQUEENdROOKdBISHOPdKNIGHTdPAWNaNEUTRAL CHESS TURNED KINGdQUEENdROOKdBISHOP
dKNIGHTdPAWNaWHITE CHESS KNIGHT ROTATED TWO HUNDRED TWENTY-FIVE DEGREESaBLACK.......
aNEUTRAL.......aWHITE CHESS KING ROTATED TWO HUNDRED SEVENTY.cQUEEN.....cROOK.....cBISHOP.....
cKNIGHT.....cPAWN.....aBLACK CHESS KING.....cQUEEN.....cROOK.....cBISHOP.....cKNIGHT.....
cPAWN.....aNEUTRAL CHESS KING.....cQUEEN.....cROOK.....cBISHOP.....cKNIGHT.....cPAWN.....
aWHITE CHESS KNIGHT ROTATED THREE HUNDRED FIFTEEN.aBLACK.......aNEUTRAL.......
aWHITE CHESS EQUIHOPPERaBLACK..aNEUTRAL..aWHITE CHESS EQUIHOPPER ROTATED NINETY DEGREESaBLACK.....
aNEUTRAL.....aWHITE CHESS KNIGHT-QUEENcKNIGHT-ROOKcKNIGHT-BISHOPaBLACK CHESS KNIGHT-QUEEN
cKNIGHT-ROOKcKNIGHT-BISHOP
1FA60aXIANGQI RED GENERALcMANDARINcELEPHANTcHORSEcCHARIOTcCANNONcSOLDIERbBLACK GENERALcMANDARIN
cELEPHANTcHORSEcCHARIOTcCANNONcSOLDIER
1FA70aBALLET SHOESaONE-PIECE SWIMSUITaBRIEFSaSHORTSaTHONG SANDAL
1FA78aDROP OF BLOODaADHESIVE BANDAGEaSTETHOSCOPEaX-RAYaCRUTCH
1FA80aYO-YOaKITEaPARACHUTEaBOOMERANGaMAGIC WANDaPINATAaNESTING DOLLS
1FA90aRINGED PLANETaCHAIRaRAZORaAXEaDIYA LAMPaBANJOaMILITARY HELMETaACCORDIONaLONG DRUMaCOIN
aCARPENTRY SAWaSCREWDRIVERaLADDERaHOOKaMIRRORaWINDOWaPLUNGERaSEWING NEEDLEaKNOTaBUCKETaMOUSE TRAP
aTOOTHBRUSHaHEADSTONEaPLACARDaROCKaMIRROR BALLaIDENTIFICATION CARDaLOW BATTERYaHAMSA
1FAB0aFLYaWORMaBEETLEaCOCKROACHaPOTTED PLANTaWOODaFEATHERaLOTUSaCORALaEMPTY NESTaNEST WITH EGGS
1FAC0aANATOMICAL HEARTaLUNGSaPEOPLE HUGGINGaPREGNANT MANbPERSONaPERSON WITH CROWN
1FAD0aBLUEBERRIESaBELL PEPPERaOLIVEaFLATBREADaTAMALEaFONDUEaTEAPOTaPOURING LIQUIDaBEANSaJAR
1FAE0aMELTING FACEaSALUTING.aFACE WITH OPEN EYES AND HAND OVER MOUTHcPEEKING EYEcDIAGONAL MOUTH
aDOTTED LINE FACEaBITING LIPaBUBBLES
1FAF0aHAND WITH INDEX FINGER AND THUMB CROSSEDaRIGHTWARDS HANDaLEFTWARDS.aPALM DOWN.bUP.
aINDEX POINTING AT THE VIEWERaHEART HANDS
1FB00aBLOCK SEXTANT-1bSEXTANT-2bSEXTANT-12bSEXTANT-3bSEXTANT-13bSEXTANT-23bSEXTANT-123bSEXTANT-4
bSEXTANT-14bSEXTANT-24bSEXTANT-124bSEXTANT-34bSEXTANT-134bSEXTANT-234bSEXTANT-1234bSEXTANT-5
bSEXTANT-15bSEXTANT-25bSEXTANT-125bSEXTANT-35bSEXTANT-235bSEXTANT-1235bSEXTANT-45bSEXTANT-145
bSEXTANT-245bSEXTANT-1245bSEXTANT-345bSEXTANT-1345bSEXTANT-2345bSEXTANT-12345bSEXTANT-6bSEXTANT-16
bSEXTANT-26bSEXTANT-126bSEXTANT-36bSEXTANT-136bSEXTANT-236bSEXTANT-1236bSEXTANT-46bSEXTANT-146
bSEXTANT-1246bSEXTANT-346bSEXTANT-1346bSEXTANT-2346bSEXTANT-12346bSEXTANT-56bSEXTANT-156
bSEXTANT-256bSEXTANT-1256bSEXTANT-356bSEXTANT-1356bSEXTANT-2356bSEXTANT-12356bSEXTANT-456
bSEXTANT-1456bSEXTANT-2456bSEXTANT-12456bSEXTANT-3456bSEXTANT-13456bSEXTANT-23456
aLOWER LEFT BLOCK DIAGONAL LOWER MIDDLE LEFT TO LOWER CENTREjRIGHT
eUPPER MIDDLE LEFT TO LOWER CENTREjRIGHTfLEFT TO LOWER CENTRE
bRIGHT BLOCK DIAGONAL UPPER MIDDLE LEFT TO UPPER.jRIGHTeLOWER MIDDLE LEFT TO UPPER CENTREjRIGHT
fLEFT TO UPPER CENTREfMIDDLE LEFT TO UPPER MIDDLE RIGHTfCENTRE TO LOWER..fLEFT....
fCENTRE TO UPPER..fLEFT....fCENTRE TO UPPER.bLEFT BLOCK DIAGONAL UPPER CENTRE TO UPPER MIDDLE.
fLEFT....fCENTRE TO LOWER..fLEFT....fCENTRE TO LOWER.fMIDDLE LEFT TO LOWER MIDDLE.
aUPPER RIGHT BLOCK DIAGONAL LOWER MIDDLE LEFT TO LOWER CENTREjRIGHT
eUPPER MIDDLE LEFT TO LOWER CENTREjRIGHTfLEFT TO LOWER CENTRE
bLEFT BLOCK DIAGONAL UPPER MIDDLE LEFT TO UPPER.jRIGHTeLOWER MIDDLE LEFT TO UPPER CENTREjRIGHT
fLEFT TO UPPER CENTREfMIDDLE LEFT TO UPPER MIDDLE RIGHTfCENTRE TO LOWER..fLEFT....
fCENTRE TO UPPER..fLEFT....fCENTRE TO UPPER.bRIGHT BLOCK DIAGONAL UPPER CENTRE TO UPPER MIDDLE.
fLEFT....fCENTRE TO LOWER..fLEFT....fCENTRE TO LOWER.fMIDDLE LEFT TO LOWER MIDDLE.
bAND RIGHT AND LOWER TRIANGULAR THREE QUARTERS BLOCKaLEFT AND LOWER AND RIGHT....
aUPPER AND LEFT AND LOWER....aLEFT AND UPPER AND RIGHT....bTRIANGULAR ONE QUARTER.aUPPER....
aRIGHT....aLOWER....aVERTICAL ONE EIGHTH BLOCK-2dBLOCK-3dBLOCK-4dBLOCK-5dBLOCK-6dBLOCK-7
aHORIZONTAL ONE EIGHTH BLOCK-2dBLOCK-3dBLOCK-4dBLOCK-5dBLOCK-6dBLOCK-7
aLEFT AND LOWER ONE EIGHTH BLOCKcUPPER...aRIGHT.....cLOWER...aUPPER.....
aHORIZONTAL ONE EIGHTH BLOCK-1358aUPPER ONE QUARTER BLOCKbTHREE EIGHTHS.bFIVE..bTHREE QUARTERS.
bSEVEN EIGHTHS.aRIGHT ONE QUARTER.bTHREE EIGHTHS.bFIVE..bTHREE QUARTERS.bSEVEN EIGHTHS.
aLEFT HALF MEDIUM SHADEaRIGHT...aUPPER...aLOWER...aINVERSE..aUPPER HALF BLOCK AND LOWER HALF...
cINVERSE MEDIUM SHADE AND LOWER HALF BLOCK
1FB94aLEFT HALF INVERSE MEDIUM SHADE AND RIGHT..aCHECKER BOARD FILLaINVERSE...aHEAVY HORIZONTAL.
aUPPER LEFT TO LOWER RIGHT.bRIGHT TO LOWER LEFT.bAND LOWER TRIANGULAR HALF BLOCKaLEFT AND RIGHT...
aUPPER LEFT TRIANGULAR MEDIUM SHADEbRIGHT...aLOWER....bLEFT...
aBOX DRAWINGS LIGHT DIAGONAL UPPER CENTRE TO MIDDLE LEFTiRIGHTeMIDDLE LEFT TO LOWER CENTRE
fRIGHT...eUPPER CENTRE TO MIDDLE LEFT...iRIGHT...eMIDDLE LEFT TO LOWER CENTRE TO MIDDLE RIGHT
hUPPER....eUPPER CENTRE TO MIDDLE LEFT AND MIDDLE RIGHT TO LOWER CENTREiRIGHT AND MIDDLE LEFT...
jTO LOWER CENTRE TO MIDDLE LEFTiLEFT TO LOWER CENTRE TO MIDDLE RIGHT
eMIDDLE LEFT TO UPPER CENTRE TO MIDDLE RIGHT TO LOWER CENTRE
fRIGHT TO UPPER CENTRE TO MIDDLE LEFT...eDIAMONDdHORIZONTAL WITH VERTICAL STROKE
aARROWHEAD-SHAPED POINTERaINVERSE CHECK MARKaLEFT HALF RUNNING MANaRIGHT...
aINVERSE DOWNWARDS ARROW WITH TIP LEFTWARDSaLEFTWARDS ARROW AND UPPER AND LOWER ONE EIGHTH BLOCK
aRIGHTWARDS........aDOWNWARDS ARROW AND RIGHT...aUPWARDS......aLEFT HALF FOLDERaRIGHT..
aVOIDED GREEK CROSSaRIGHT OPEN SQUARED DOTaNEGATIVE DIAGONAL CROSScMIDDLE RIGHT TO LOWER CENTRE
cDIAMONDaWHITE HEAVY SALTIRE WITH ROUNDED CORNERSaLEFT THIRD WHITE RIGHT POINTING INDEX
aMIDDLE.....aRIGHT.....aNEGATIVE SQUARED QUESTION MARKaSTICK FIGUREcWITH ARMS RAISEDcLEANING LEFT
dRIGHTcWITH DRESSaWHITE UP-POINTING CHEVRON
1FBF0aSEGMENTED DIGIT ZEROcONEcTWOcTHREEcFOURcFIVEcSIXcSEVENcEIGHTcNINE
E0001aLANGUAGE TAG
E0020aTAG SPACEbEXCLAMATION MARKbQUOTATION.bNUMBER SIGNbDOLLAR.bPERCENT.bAMPERSANDbAPOSTROPHE
bLEFT PARENTHESISbRIGHT.bASTERISKbPLUS SIGNbCOMMAbHYPHEN-MINUSbFULL STOPbSOLIDUSbDIGIT ZEROcONE
cTWOcTHREEcFOURcFIVEcSIXcSEVENcEIGHTcNINEbCOLONbSEMICOLONbLESS-THAN SIGNbEQUALS.bGREATER-THAN.
bQUESTION MARKbCOMMERCIAL ATbLATIN CAPITAL LETTER AeBeCeDeEeFeGeHeIeJeKeLeMeNeOePeQeReSeTeUeVeWeX
eYeZbLEFT SQUARE BRACKETbREVERSE SOLIDUSbRIGHT SQUARE BRACKETbCIRCUMFLEX ACCENTbLOW LINE
bGRAVE ACCENTbLATIN SMALL LETTER AeBeCeDeEeFeGeHeIeJeKeLeMeNeOePeQeReSeTeUeVeWeXeYeZ
bLEFT CURLY BRACKETbVERTICAL LINEbRIGHT CURLY BRACKETbTILDEaCANCEL TAG
E0100aVARIATION SELECTOR-17bSELECTOR-18bSELECTOR-19bSELECTOR-20bSELECTOR-21bSELECTOR-22
bSELECTOR-23bSELECTOR-24bSELECTOR-25bSELECTOR-26bSELECTOR-27bSELECTOR-28bSELECTOR-29bSELECTOR-30
bSELECTOR-31bSELECTOR-32bSELECTOR-33bSELECTOR-34bSELECTOR-35bSELECTOR-36bSELECTOR-37bSELECTOR-38
bSELECTOR-39bSELECTOR-40bSELECTOR-41bSELECTOR-42bSELECTOR-43bSELECTOR-44bSELECTOR-45bSELECTOR-46
bSELECTOR-47bSELECTOR-48bSELECTOR-49bSELECTOR-50bSELECTOR-51bSELECTOR-52bSELECTOR-53bSELECTOR-54
bSELECTOR-55bSELECTOR-56bSELECTOR-57bSELECTOR-58bSELECTOR-59bSELECTOR-60bSELECTOR-61bSELECTOR-62
bSELECTOR-63bSELECTOR-64bSELECTOR-65bSELECTOR-66bSELECTOR-67bSELECTOR-68bSELECTOR-69bSELECTOR-70
bSELECTOR-71bSELECTOR-72bSELECTOR-73bSELECTOR-74bSELECTOR-75bSELECTOR-76bSELECTOR-77bSELECTOR-78
bSELECTOR-79bSELECTOR-80bSELECTOR-81bSELECTOR-82bSELECTOR-83bSELECTOR-84bSELECTOR-85bSELECTOR-86
bSELECTOR-87bSELECTOR-88bSELECTOR-89bSELECTOR-90bSELECTOR-91bSELECTOR-92bSELECTOR-93bSELECTOR-94
bSELECTOR-95bSELECTOR-96bSELECTOR-97bSELECTOR-98bSELECTOR-99bSELECTOR-100bSELECTOR-101
bSELECTOR-102bSELECTOR-103bSELECTOR-104bSELECTOR-105bSELECTOR-106bSELECTOR-107bSELECTOR-108
bSELECTOR-109bSELECTOR-110bSELECTOR-111bSELECTOR-112bSELECTOR-113bSELECTOR-114bSELECTOR-115
bSELECTOR-116bSELECTOR-117bSELECTOR-118bSELECTOR-119bSELECTOR-120bSELECTOR-121bSELECTOR-122
bSELECTOR-123bSELECTOR-124bSELECTOR-125bSELECTOR-126bSELECTOR-127bSELECTOR-128bSELECTOR-129
bSELECTOR-130bSELECTOR-131bSELECTOR-132bSELECTOR-133bSELECTOR-134bSELECTOR-135bSELECTOR-136
bSELECTOR-137bSELECTOR-138bSELECTOR-139bSELECTOR-140bSELECTOR-141bSELECTOR-142bSELECTOR-143
bSELECTOR-144bSELECTOR-145bSELECTOR-146bSELECTOR-147bSELECTOR-148bSELECTOR-149bSELECTOR-150
bSELECTOR-151bSELECTOR-152bSELECTOR-153bSELECTOR-154bSELECTOR-155bSELECTOR-156bSELECTOR-157
bSELECTOR-158bSELECTOR-159bSELECTOR-160bSELECTOR-161bSELECTOR-162bSELECTOR-163bSELECTOR-164
bSELECTOR-165bSELECTOR-166bSELECTOR-167bSELECTOR-168bSELECTOR-169bSELECTOR-170bSELECTOR-171
bSELECTOR-172bSELECTOR-173bSELECTOR-174bSELECTOR-175bSELECTOR-176bSELECTOR-177bSELECTOR-178
bSELECTOR-179bSELECTOR-180bSELECTOR-181bSELECTOR-182bSELECTOR-183bSELECTOR-184bSELECTOR-185
bSELECTOR-186bSELECTOR-187bSELECTOR-188bSELECTOR-189bSELECTOR-190bSELECTOR-191bSELECTOR-192
bSELECTOR-193bSELECTOR-194bSELECTOR-195bSELECTOR-196bSELECTOR-197bSELECTOR-198bSELECTOR-199
bSELECTOR-200bSELECTOR-201bSELECTOR-202bSELECTOR-203bSELECTOR-204bSELECTOR-205bSELECTOR-206
bSELECTOR-207bSELECTOR-208bSELECTOR-209bSELECTOR-210bSELECTOR-211bSELECTOR-212bSELECTOR-213
bSELECTOR-214bSELECTOR-215bSELECTOR-216bSELECTOR-217bSELECTOR-218bSELECTOR-219bSELECTOR-220
bSELECTOR-221bSELECTOR-222bSELECTOR-223bSELECTOR-224bSELECTOR-225bSELECTOR-226bSELECTOR-227
bSELECTOR-228bSELECTOR-229bSELECTOR-230bSELECTOR-231bSELECTOR-232bSELECTOR-233bSELECTOR-234
bSELECTOR-235bSELECTOR-236bSELECTOR-237bSELECTOR-238bSELECTOR-239bSELECTOR-240bSELECTOR-241
bSELECTOR-242bSELECTOR-243bSELECTOR-244bSELECTOR-245bSELECTOR-246bSELECTOR-247bSELECTOR-248
bSELECTOR-249bSELECTOR-250bSELECTOR-251bSELECTOR-252bSELECTOR-253bSELECTOR-254bSELECTOR-255
bSELECTOR-256"

/-- Further names of characters, controls first. -/
def otherNames : String := "
0000aNULLaSTART OF HEADINGcTEXTaEND..cTRANSMISSIONaENQUIRYaACKNOWLEDGEaALERTaBACKSPACE
aCHARACTER TABULATIONaLINE FEEDbTABULATIONaFORM FEEDaCARRIAGE RETURNaSHIFT OUTbINaDATA LINK ESCAPE
aDEVICE CONTROL ONEcTWOcTHREEcFOURaNEGATIVE ACKNOWLEDGEaSYNCHRONOUS IDLEaEND OF TRANSMISSION BLOCK
aCANCELaEND OF MEDIUMaSUBSTITUTEaESCAPEaINFORMATION SEPARATOR FOURcTHREEcTWOcONEaSP
007FaDELETEaPADDING CHARACTERaHIGH OCTET PRESETaBREAK PERMITTED HEREaNO BREAK.aINDEXaNEXT LINE
aSTART OF SELECTED AREAaEND...aCHARACTER TABULATION SETcWITH JUSTIFICATIONaLINE TABULATION SET
aPARTIAL LINE FORWARDcBACKWARDaREVERSE LINE FEEDaSINGLE SHIFT TWOcTHREEaDEVICE CONTROL STRING
aPRIVATE USE ONEcTWOaSET TRANSMIT STATEaCANCEL CHARACTERaMESSAGE WAITINGaSTART OF GUARDED AREA
aEND...aSTART OF STRINGaSINGLE GRAPHIC CHARACTER INTRODUCERb..aCONTROL SEQUENCE.aSTRING TERMINATOR
aOPERATING SYSTEM COMMANDaPRIVACY MESSAGEaAPPLICATION PROGRAM COMMANDaNBSP
00ADaSHY
01A2aLATIN CAPITAL LETTER GHAbSMALL..
034FaCGJ
061CaALM
0709aSYRIAC SUBLINEAR COLON SKEWED LEFT
0CDEaKANNADA LETTER LLLA
0E9DaLAO LETTER FO FON
0E9FdFAY
0EA3cRO
0EA5cLO
0FD0aTIBETAN MARK BKA- SHOG GI MGO RGYAN
11ECaHANGUL JONGSEONG YESIEUNG-KIYEOKcYESIEUNG-SSANGKIYEOKcSSANGYESIEUNGcYESIEUNG-KHIEUKH
180BaFVS1aFVS2aFVS3aMVSaFVS4
200BaZWSPaZWNJaZWJaLRMaRLM
202AaLREaRLEaPDFaLROaRLOaNNBSP
205FaMMSPaWJ
2066aLRIaRLIaFSIaPDI
2118aWEIERSTRASS ELLIPTIC FUNCTION
2448aMICR ON US SYMBOLbDASH.
2B7AaLEFTWARDS TRIANGLE-HEADED ARROW WITH DOUBLE VERTICAL STROKE
2B7CaRIGHTWARDS......
A015aYI SYLLABLE ITERATION MARK
AA6EaMYANMAR LETTER KHAMTI LLA
FE00aVS1aVS2aVS3aVS4aVS5aVS6aVS7aVS8aVS9aVS10aVS11aVS12aVS13aVS14aVS15aVS16
FE18aPRESENTATION FORM FOR VERTICAL RIGHT WHITE LENTICULAR BRACKET
FEFFaBYTE ORDER MARK
122D4aCUNEIFORM SIGN NU11 TENUdOVER NU11 BUR OVER BUR
16E56aMEDEFAIDRIN CAPITAL LETTER HdNG
16E76bSMALL LETTER HdNG
1B001aHENTAIGANA LETTER E-1
1D0C5aBYZANTINE MUSICAL SYMBOL FTHORA SKLIRON CHROMA VASIS
E0100aVS17aVS18aVS19aVS20aVS21aVS22aVS23aVS24aVS25aVS26aVS27aVS28aVS29aVS30aVS31aVS32aVS33aVS34
aVS35aVS36aVS37aVS38aVS39aVS40aVS41aVS42aVS43aVS44aVS45aVS46aVS47aVS48aVS49aVS50aVS51aVS52aVS53
aVS54aVS55aVS56aVS57aVS58aVS59aVS60aVS61aVS62aVS63aVS64aVS65aVS66aVS67aVS68aVS69aVS70aVS71aVS72
aVS73aVS74aVS75aVS76aVS77aVS78aVS79aVS80aVS81aVS82aVS83aVS84aVS85aVS86aVS87aVS88aVS89aVS90aVS91
aVS92aVS93aVS94aVS95aVS96aVS97aVS98aVS99aVS100aVS101aVS102aVS103aVS104aVS105aVS106aVS107aVS108
aVS109aVS110aVS111aVS112aVS113aVS114aVS115aVS116aVS117aVS118aVS119aVS120aVS121aVS122aVS123aVS124
aVS125aVS126aVS127aVS128aVS129aVS130aVS131aVS132aVS133aVS134aVS135aVS136aVS137aVS138aVS139aVS140
aVS141aVS142aVS143aVS144aVS145aVS146aVS147aVS148aVS149aVS150aVS151aVS152aVS153aVS154aVS155aVS156
aVS157aVS158aVS159aVS160aVS161aVS162aVS163aVS164aVS165aVS166aVS167aVS168aVS169aVS170aVS171aVS172
aVS173aVS174aVS175aVS176aVS177aVS178aVS179aVS180aVS181aVS182aVS183aVS184aVS185aVS186aVS187aVS188
aVS189aVS190aVS191aVS192aVS193aVS194aVS195aVS196aVS197aVS198aVS199aVS200aVS201aVS202aVS203aVS204
aVS205aVS206aVS207aVS208aVS209aVS210aVS211aVS212aVS213aVS214aVS215aVS216aVS217aVS218aVS219aVS220
aVS221aVS222aVS223aVS224aVS225aVS226aVS227aVS228aVS229aVS230aVS231aVS232aVS233aVS234aVS235aVS236
aVS237aVS238aVS239aVS240aVS241aVS242aVS243aVS244aVS245aVS246aVS247aVS248aVS249aVS250aVS251aVS252
aVS253aVS254aVS255aVS256
0000aNULaSOHaSTXaETXaEOTaENQaACKaBELaBSaHORIZONTAL TABULATIONaNEW LINEaVERTICAL TABULATIONaFFaCR
aLOCKING-SHIFT ONEbZEROaDLEaDC1aDC2aDC3aDC4aNAKaSYNaETBaCANaEOMaSUBaESCaFILE SEPARATORaGROUP.
aRECORD.aUNIT.
007FaDELaPADaHOPaBPHaNBHaINDaNELaSSAaESAaHORIZONTAL TABULATION SETcWITH JUSTIFICATION
aVERTICAL TABULATION SETaPARTIAL LINE DOWNcUPaREVERSE INDEXaSINGLE-SHIFT-2aSINGLE-SHIFT-3aDCS
aPRIVATE USE-1bUSE-2aSTSaCCHaMWaSTART OF PROTECTED AREAaEND...aSOSaSGCaSCIaCSIaSTaOSCaPMaAPC
FEFFaBOM
0009aHTaEND OF LINEaVT
000EaSOaSI
001CaFSaGSaRSaUS
0088aHTSaHTJaVTSaPLDaPLUaRIaSS2aSS3
0091aPU1aPU2
0096aSPAaEPA
FEFFaZWNBSP
0009aTABaEOL
000AaLF
000AaNL"

/-- All names. -/
def nameTables : List String :=
  [latinNames, southernNames, symbolNames, easternNames, ancientNames, pictureNames, otherNames]

end Clearance.Text
